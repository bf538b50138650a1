import TokenMint.Proofs.Engine.Plain
import TokenMint.Proofs.Scope.Key

/-!
# Remembered resolutions

What an engine remembers about a key is what the chain of that key resolves to (`Engine.Remembers`).
This holds at first and after every resolution, because the key of a chain is that of no other chain
of the tree. So an engine always resolves a path to what a plain engine works out anew
(`Engine.Remembers.resolve`), and nothing but its memory and the notices to the operator changes
(`Engine.resolve_frame`).
-/

set_option autoImplicit false
set_option relaxedAutoImplicit false

namespace TokenMint.Engine

/-- What is remembered under the key of a chain is the resolution of that chain. -/
def Remembers (engine : Engine) (resolutions : Table Resolution) : Prop :=
  ∀ path chain resolution, engine.tree.chain path = .ok chain →
    resolutions.get? chain.key = some resolution → resolution = engine.resolution chain

variable {engine : Engine} {state : State}

theorem remembers_empty (engine : Engine) : engine.Remembers .empty := by
  intro path chain resolution _ hget
  simp at hget

theorem Remembers.insert {resolutions : Table Resolution} (hmemo : engine.Remembers resolutions)
    {path : String} {chain : Chain} (hchain : engine.tree.chain path = .ok chain) :
    engine.Remembers (resolutions.insert chain.key (engine.resolution chain)) := by
  intro other chain' resolution hchain' hget
  rw [Table.get?_insert] at hget
  split at hget
  next hkey =>
    -- The key of a chain is that of no other chain of the tree.
    rw [← Option.some.inj hget, ScopeTree.chain_eq_of_key_eq hchain' hchain hkey]
  next => exact hmemo other chain' resolution hchain' hget

/-- A plain engine resolves a chain to what an engine remembers about it. -/
theorem plain_resolve (engine : Engine) {path : String} {chain : Chain}
    (hchain : engine.tree.chain path = .ok chain) :
    Plain.resolve engine path = (engine.resolution chain).map fun settings ↦ (chain, settings) := by
  unfold Plain.resolve resolution
  rw [hchain]
  cases hvalid : liftFault (chain.settings engine.root).validate <;>
    simp [bind, Except.bind, Except.map, pure, Except.pure, hvalid]

theorem plain_resolve_eq_ok_iff (engine : Engine) {path : String} {chain : Chain}
    {settings : Settings} :
    Plain.resolve engine path = .ok (chain, settings) ↔
      engine.tree.chain path = .ok chain ∧ settings = chain.settings engine.root ∧
        settings.validate = .ok () := by
  cases hchain : engine.tree.chain path with
  | error error => simp [Plain.resolve, hchain, bind, Except.bind]
  | ok found =>
    rw [plain_resolve engine hchain, resolution]
    cases hvalid : (found.settings engine.root).validate with
    | error fault =>
      simp only [liftFault, Except.map, Except.ok.injEq, reduceCtorEq, false_iff]
      rintro ⟨rfl, rfl, hok⟩
      simp [hvalid] at hok
    | ok =>
      simp only [liftFault, Except.map, Except.ok.injEq, Prod.mk.injEq]
      constructor
      · rintro ⟨rfl, rfl⟩
        exact ⟨rfl, rfl, hvalid⟩
      · rintro ⟨rfl, rfl, -⟩
        exact ⟨rfl, rfl⟩

/-- What is remembered is what would be worked out anew. -/
theorem Remembers.remember (hmemo : engine.Remembers state.resolutions) {path : String}
    {chain : Chain} (hchain : engine.tree.chain path = .ok chain) :
    (engine.remember chain state).1 = engine.resolution chain ∧
      engine.Remembers (engine.remember chain state).2.resolutions := by
  unfold Engine.remember
  cases hget : state.resolutions.get? chain.key with
  | some resolution => exact ⟨hmemo path chain resolution hchain hget, hmemo⟩
  | none => exact ⟨rfl, hmemo.insert hchain⟩

theorem Remembers.resolve (hmemo : engine.Remembers state.resolutions) (path : String) :
    (engine.resolve path state).1 = Plain.resolve engine path ∧
      engine.Remembers (engine.resolve path state).2.resolutions := by
  unfold Engine.resolve
  cases hchain : engine.tree.chain path with
  | error error =>
    refine ⟨?_, hmemo⟩
    simp [Plain.resolve, hchain, bind, Except.bind]
  | ok chain =>
    obtain ⟨hresolution, hafter⟩ := hmemo.remember hchain
    refine ⟨?_, hafter⟩
    rw [plain_resolve engine hchain, ← hresolution]

/-! ### What resolving leaves alone -/

/-- Resolving a path changes nothing but what is remembered and what the operator is told. -/
theorem resolve_frame (engine : Engine) (path : String) (state : State) :
    ∃ resolutions notices, (engine.resolve path state).2 =
      { state with resolutions := resolutions, notices := notices } := by
  unfold Engine.resolve Engine.remember
  cases engine.tree.chain path with
  | error error => exact ⟨_, _, rfl⟩
  | ok chain =>
    cases hget : state.resolutions.get? chain.key with
    | some resolution =>
      simp only [hget]
      exact ⟨_, _, rfl⟩
    | none =>
      simp only [hget]
      exact ⟨_, _, rfl⟩

@[simp]
theorem cache_resolve (engine : Engine) (path : String) (state : State) :
    (engine.resolve path state).2.cache = state.cache := by
  obtain ⟨resolutions, notices, hframe⟩ := resolve_frame engine path state
  rw [hframe]

@[simp]
theorem entropy_resolve (engine : Engine) (path : String) (state : State) :
    (engine.resolve path state).2.entropy = state.entropy := by
  obtain ⟨resolutions, notices, hframe⟩ := resolve_frame engine path state
  rw [hframe]

@[simp]
theorem clock_resolve (engine : Engine) (path : String) (state : State) :
    (engine.resolve path state).2.clock = state.clock := by
  obtain ⟨resolutions, notices, hframe⟩ := resolve_frame engine path state
  rw [hframe]

@[simp]
theorem clockReadings_resolve (engine : Engine) (path : String) (state : State) :
    (engine.resolve path state).2.clockReadings = state.clockReadings := by
  obtain ⟨resolutions, notices, hframe⟩ := resolve_frame engine path state
  rw [hframe]

@[simp]
theorem collector_resolve (engine : Engine) (path : String) (state : State) :
    (engine.resolve path state).2.collector = state.collector := by
  obtain ⟨resolutions, notices, hframe⟩ := resolve_frame engine path state
  rw [hframe]

end TokenMint.Engine
