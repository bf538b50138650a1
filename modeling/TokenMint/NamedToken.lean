import TokenMint.Format
import TokenMint.Limits

/-!
# Named tokens

A `NamedToken` declares a further token that is minted with every request and is handed over in an
environment variable of its own. Whatever it does not give is taken from the settings that apply to
the request.
-/

set_option autoImplicit false
set_option relaxedAutoImplicit false

namespace TokenMint

/-- The declaration of a named token. -/
structure NamedToken where
  /-- The environment variable. -/
  name : String
  length : Option Nat
  format : Option Format
  /-- The header that carries the token as well. -/
  header : Option String
  /-- Whether the token starts with the time of its issue. -/
  timestamped : Option Bool
  /-- What stands before the token. -/
  textBefore : Option String
  /-- What stands after the token. -/
  textAfter : Option String
  /-- How long the token is kept. -/
  ttl : Option Duration
  deriving DecidableEq

namespace NamedToken

/-- The declaration that gives nothing but the name. -/
def ofName (name : String) : NamedToken :=
  ⟨name, none, none, none, none, none, none, none⟩

/-- Whether a text may be the name of a variable: it is not empty and holds no blank. -/
def IsVariableName (name : String) : Prop :=
  name.toList ≠ [] ∧ ∀ c ∈ name.toList, Text.isBlank c = false

instance (name : String) : Decidable (IsVariableName name) :=
  -- The characters of the name are tried, and not all characters there are.
  @instDecidableAnd _ _ _ (List.decidableBAll _ _)

/-- Refuses a bad name. -/
def checkName (name : String) : Except ConfigFault Unit :=
  if IsVariableName name then .ok () else .error (.specNameInvalid name)

/-- Reports a fault as one of the named token. -/
def within (name : String) : Except ConfigFault Unit → Except ConfigFault Unit :=
  Except.mapError (.inSpec name)

/-- Refuses a bad name, a length or a lifetime out of bounds, in this order. -/
def validate (token : NamedToken) : Except ConfigFault Unit := do
  checkName token.name
  within token.name (checkGiven (checkNumber "length" .length) token.length)
  within token.name (checkGiven (checkLifetime "ttl" maxLifetime) token.ttl)

end NamedToken

end TokenMint
