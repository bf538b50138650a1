import TokenMint.Entropy
import TokenMint.Scope.Tree

/-!
# Engines

An `Engine` has a checked tree of scopes, root settings and a source of random bytes, none of which
change. Root settings must be valid and have no signing key, because keys belong to scopes;
`Engine.build` reports the first fault otherwise.
-/

set_option autoImplicit false
set_option relaxedAutoImplicit false

namespace TokenMint

/-- A warning to the operator, about a scope or about the engine. -/
structure Notice where
  scope : Option String
  message : String
  deriving DecidableEq

/-- What tokens are minted with. -/
structure Engine where
  tree : ScopeTree
  root : Settings
  source : EntropySource
  root_key : root.signingKey = none
  root_valid : root.validate = .ok ()

namespace Engine

/-- The engine of some scopes, root settings and a source, or the first fault. -/
def build (scopes : List Scope) (root : Settings) (source : EntropySource) :
    Except ConfigFault Engine :=
  match ScopeTree.ofList scopes with
  | .error fault => .error fault
  | .ok tree =>
    if hkey : root.signingKey = none then
      match hvalid : root.validate with
      | .error fault => .error fault
      | .ok () => .ok ⟨tree, root, source, hkey, hvalid⟩
    else .error .rootSigningKey

/-- The warnings about an engine as a whole. -/
def openingNotices (engine : Engine) : List Notice :=
  let unused := "Token engine built without scopes; it will never emit tokens"
  (if engine.tree.scopes.isEmpty then [⟨none, unused⟩] else []) ++
    engine.root.warnings.map fun warning ↦ ⟨none, warning.message⟩

end Engine

end TokenMint
