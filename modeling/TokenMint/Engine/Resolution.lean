import TokenMint.Engine.State

/-!
# Resolving a path

The settings of a path are those of its chain of scopes. They are computed and validated once for
each chain, and the operator is told then what is questionable or wrong about them; afterwards the
remembered resolution is used.
-/

set_option autoImplicit false
set_option relaxedAutoImplicit false

namespace TokenMint.Engine

/-- The resolution of a chain. -/
def resolution (engine : Engine) (chain : Chain) : Resolution :=
  let settings := chain.settings engine.root
  (liftFault settings.validate).map fun _ ↦ settings

/-- What the operator is told about the resolution of a chain. -/
def resolutionNotices (key : String) : Resolution → List Notice
  | .ok settings => settings.warnings.map fun warning ↦ ⟨some key, warning.message⟩
  | .error error => [⟨some key, "Token engine disabled for scope: " ++ error.message⟩]

/-- The resolution of a chain, which is remembered. -/
def remember (engine : Engine) (chain : Chain) (state : State) : Resolution × State :=
  match state.resolutions.get? chain.key with
  | some resolution => (resolution, state)
  | none =>
    let resolution := engine.resolution chain
    let remembered :=
      { state with resolutions := state.resolutions.insert chain.key resolution }
    (resolution, remembered.notify (resolutionNotices chain.key resolution))

/-- The chain of a path and its settings. -/
def resolve (engine : Engine) (path : String) (state : State) :
    Except TokenError (Chain × Settings) × State :=
  match engine.tree.chain path with
  | .error error => (.error error, state)
  | .ok chain =>
    let (resolution, state) := engine.remember chain state
    (resolution.map fun settings ↦ (chain, settings), state)

end TokenMint.Engine
