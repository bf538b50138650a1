import TokenMint.Directive
import TokenMint.Scope.Pattern

/-!
# Scopes

A `Scope` binds a layer of configuration to the paths that a pattern covers. Its name is part of the
key under which tokens are kept, so it may hold neither of the two characters that join the parts of
a key (`Scope.IsName`).
-/

set_option autoImplicit false
set_option relaxedAutoImplicit false

namespace TokenMint

/-- A layer for the paths that a pattern covers. -/
structure Scope where
  name : String
  pattern : Pattern
  layer : Layer
  deriving DecidableEq

namespace Scope

/-- The character between the names in the key of a chain. -/
def chainSeparator : Char := '>'

/-- The character between the key of a chain and the name of a named token. -/
def namedSeparator : Char := '#'

/-- Whether a text may name a scope. -/
def IsName (name : String) : Prop :=
  name.toList ≠ [] ∧ chainSeparator ∉ name.toList ∧ namedSeparator ∉ name.toList

instance (name : String) : Decidable (IsName name) :=
  inferInstanceAs (Decidable (_ ∧ _ ∧ _))

/-- The scope that an operator writes: a name, a pattern and directives. -/
def ofOptions (name pattern : String) (options : List (String × String)) :
    Except ConfigFault Scope := do
  let pattern ← Pattern.ofText pattern
  return ⟨name, pattern, ← Layer.ofOptions options⟩

end Scope

end TokenMint
