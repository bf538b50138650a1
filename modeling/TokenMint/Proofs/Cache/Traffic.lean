import TokenMint.Cache

/-!
# The traffic of a cache

Callers overlap. One consults the cache, others come and go, and only then has the first a result.
`Traffic` is a cache together with all calls of it, and a `Step` is the least that can happen: a
caller consults the cache, one that generates has a result or breaks down, one that waits looks for
the verdict. Steps come in any order, for any keys and instants; one that is not due changes
nothing. `Traffic.run` is the traffic after a list of steps, and so every state that a cache can get
into is the state of some run.

A generation can be delivered twice, and a caller can wait for a generation that nobody runs, as far
as the definitions go. Both have answers of their own here (`isDelivered`, `isAbandoned`).
-/

set_option autoImplicit false
set_option relaxedAutoImplicit false

namespace TokenMint

namespace Traffic

/-- How a call ends. -/
inductive Ending where
  | answered (answer : Except TokenError Served)
  /-- The caller broke down while it generated. -/
  | brokenDown

/-- A call of the cache. -/
structure Call where
  lookup : Lookup
  /-- What the caller was told when it consulted the cache. -/
  told : Instruction
  /-- How the call ended, once it has. -/
  ending : Option Ending

/-- A generation that succeeded, by the look-up of its caller. -/
structure Publication where
  lookup : Lookup
  minted : Minted
  deriving DecidableEq

/-- The least that can happen. -/
inductive Step where
  /-- A caller consults the cache, if it has not done so before. -/
  | consult (caller : String) (lookup : Lookup)
  /-- A caller that generates has a result. -/
  | finish (caller : String) (result : Except TokenError Minted)
  /-- A caller that generates breaks down. -/
  | breakDown (caller : String)
  /-- A caller that waits looks for the verdict. -/
  | resume (caller : String)

/-- How a caller that generates can fail. -/
inductive Failure where
  | error (error : TokenError)
  | breakdown

/-- The step in which a caller fails. -/
def Failure.step (caller : String) : Failure → Step
  | error reason => .finish caller (.error reason)
  | breakdown => .breakDown caller

/-- How the call of a caller ends that fails. -/
def Failure.ending : Failure → Ending
  | error reason => .answered (.error reason)
  | breakdown => .brokenDown

end Traffic

/-- A cache and the calls of it. -/
structure Traffic where
  cache : Cache
  /-- The calls by the names of the callers. -/
  calls : Table Traffic.Call
  /-- The generations that succeeded, the oldest first. -/
  published : List Traffic.Publication

namespace Traffic

/-- What is kept of a generation that succeeded. -/
def Publication.kept (publication : Publication) : Kept :=
  ⟨publication.minted, publication.lookup.now + publication.lookup.ttl⟩

/-- The verdict for those who waited for a call that generated. -/
def Ending.verdict : Ending → Verdict
  | answered (.ok served) => .ok served.minted
  | answered (.error error) => .error (.regenerationFailed error.message)
  | brokenDown => .error (.regenerationFailed "token generator panicked")

/-- The end of a call that is served at once. -/
def endingOf : Instruction → Option Ending
  | .served served => some (.answered (.ok served))
  | _ => none

/-- The traffic before the first call. -/
def initial (policy : Policy) : Traffic :=
  ⟨.empty policy, .empty, []⟩

/-- The traffic in which a call stands as given. -/
def setCall (traffic : Traffic) (caller : String) (call : Call) : Traffic :=
  { traffic with calls := traffic.calls.insert caller call }

/-- The generation that a caller was told to run. -/
def generationOf : Instruction → Option Nat
  | .generate (some guard) => some guard.generation
  | _ => none

/-- Whether the verdict on the generation of a guard is out. -/
def isDelivered (traffic : Traffic) (guard : Option Guard) : Bool :=
  guard.any fun guard ↦ (traffic.cache.verdict? guard.generation).isSome

/-- Whether there is no verdict on a generation and nobody who could deliver one. -/
def isAbandoned (traffic : Traffic) (generation : Nat) : Bool :=
  (traffic.cache.verdict? generation).isNone &&
    !traffic.calls.entries.any fun entry ↦
      decide (generationOf entry.2.told = some generation) && entry.2.ending.isNone

/-- The publication that comes of a result. -/
def publicationOf (lookup : Lookup) : Option Guard → Except TokenError Minted → List Publication
  | some _, .ok minted => [⟨lookup, minted⟩]
  | _, _ => []

/-- A new caller consults the cache. -/
def enter (traffic : Traffic) (caller : String) (lookup : Lookup) : Traffic :=
  let told := (traffic.cache.consult lookup).1
  { traffic.setCall caller ⟨lookup, told, endingOf told⟩ with
    cache := (traffic.cache.consult lookup).2 }

/-- A caller that generates delivers its result. -/
def finish (traffic : Traffic) (caller : String) (lookup : Lookup) (guard : Option Guard)
    (result : Except TokenError Minted) : Traffic :=
  if traffic.isDelivered guard then
    traffic.setCall caller ⟨lookup, .generate guard,
      some (.answered (.error (.regenerationFailed "regeneration already published")))⟩
  else
    let delivered := traffic.cache.deliver lookup guard result
    { traffic.setCall caller ⟨lookup, .generate guard, some (.answered delivered.1)⟩ with
      cache := delivered.2
      published := traffic.published ++ publicationOf lookup guard result }

/-- A caller that generates breaks down. -/
def breakDown (traffic : Traffic) (caller : String) (lookup : Lookup) (guard : Option Guard) :
    Traffic :=
  let ended := traffic.setCall caller ⟨lookup, .generate guard, some .brokenDown⟩
  if traffic.isDelivered guard then ended
  else { ended with cache := traffic.cache.abandon lookup guard }

/-- A caller that waits takes the verdict, if it is out. -/
def resume (traffic : Traffic) (caller : String) (lookup : Lookup) (generation : Nat) : Traffic :=
  match traffic.cache.await? generation with
  | some answer => traffic.setCall caller ⟨lookup, .wait generation, some (.answered answer)⟩
  | none =>
    if traffic.isAbandoned generation then
      traffic.setCall caller ⟨lookup, .wait generation,
        some (.answered (.error (.regenerationFailed "regeneration abandoned")))⟩
    else traffic

/-- The traffic after a step. -/
def after (traffic : Traffic) : Step → Traffic
  | .consult caller lookup =>
    match traffic.calls.get? caller with
    | none => traffic.enter caller lookup
    | some _ => traffic
  | .finish caller result =>
    match traffic.calls.get? caller with
    | some ⟨lookup, .generate guard, none⟩ => traffic.finish caller lookup guard result
    | _ => traffic
  | .breakDown caller =>
    match traffic.calls.get? caller with
    | some ⟨lookup, .generate guard, none⟩ => traffic.breakDown caller lookup guard
    | _ => traffic
  | .resume caller =>
    match traffic.calls.get? caller with
    | some ⟨lookup, .wait generation, none⟩ => traffic.resume caller lookup generation
    | _ => traffic

/-- The traffic after several steps. -/
def afterAll (traffic : Traffic) (steps : List Step) : Traffic :=
  steps.foldl after traffic

/-- The traffic of a new cache after several steps. -/
def run (policy : Policy) (steps : List Step) : Traffic :=
  (initial policy).afterAll steps

/-- The generations for a key that succeeded, the oldest first. -/
def publishedFor (traffic : Traffic) (key : String) : List Publication :=
  traffic.published.filter fun publication ↦ decide (publication.lookup.key = key)

/-- A caller was told to run the generation of a guard, and how its call ended. -/
def Claimed (traffic : Traffic) (caller : String) (lookup : Lookup) (guard : Guard)
    (ending : Option Ending) : Prop :=
  traffic.calls.get? caller = some ⟨lookup, .generate (some guard), ending⟩

/-- A caller runs the generation of a guard. -/
def Runs (traffic : Traffic) (caller : String) (lookup : Lookup) (guard : Guard) : Prop :=
  traffic.Claimed caller lookup guard none

/-- Some caller was told to run a generation, for a key. -/
def IsClaimed (traffic : Traffic) (key : String) (generation : Nat) : Prop :=
  ∃ caller lookup guard ending, traffic.Claimed caller lookup guard ending ∧
    guard.generation = generation ∧ lookup.key = key

/-- A caller waits for a generation. -/
def Waits (traffic : Traffic) (caller : String) (lookup : Lookup) (generation : Nat) : Prop :=
  traffic.calls.get? caller = some ⟨lookup, .wait generation, none⟩

/-! ### One case for each kind of step -/

@[simp]
theorem afterAll_nil (traffic : Traffic) : traffic.afterAll [] = traffic := rfl

theorem afterAll_cons (traffic : Traffic) (step : Step) (steps : List Step) :
    traffic.afterAll (step :: steps) = (traffic.after step).afterAll steps := rfl

theorem afterAll_append (traffic : Traffic) (first second : List Step) :
    traffic.afterAll (first ++ second) = (traffic.afterAll first).afterAll second :=
  List.foldl_append

theorem calls_setCall (traffic : Traffic) (caller : String) (call : Call) (other : String) :
    (traffic.setCall caller call).calls.get? other =
      if other = caller then some call else traffic.calls.get? other :=
  Table.get?_insert ..

/-- Callers are at work as before when the call of one of them is set, but for this one. -/
theorem claimed_iff_of_calls_eq {traffic next : Traffic} {caller : String} {call : Call}
    (hcalls : next.calls = (traffic.setCall caller call).calls) (other : String) (lookup : Lookup)
    (guard : Guard) (ending : Option Ending) :
    next.Claimed other lookup guard ending ↔
      (other = caller ∧ call = ⟨lookup, .generate (some guard), ending⟩) ∨
        (other ≠ caller ∧ traffic.Claimed other lookup guard ending) := by
  rw [Claimed, hcalls, calls_setCall]
  by_cases hother : other = caller
  · simp [hother]
  · simp [hother, Claimed]

theorem waits_iff_of_calls_eq {traffic next : Traffic} {caller : String} {call : Call}
    (hcalls : next.calls = (traffic.setCall caller call).calls) (other : String) (lookup : Lookup)
    (generation : Nat) :
    next.Waits other lookup generation ↔
      (other = caller ∧ call = ⟨lookup, .wait generation, none⟩) ∨
        (other ≠ caller ∧ traffic.Waits other lookup generation) := by
  rw [Waits, hcalls, calls_setCall]
  by_cases hother : other = caller
  · simp [hother]
  · simp [hother, Waits]

theorem after_consult {traffic : Traffic} {caller : String} (lookup : Lookup)
    (hnone : traffic.calls.get? caller = none) :
    traffic.after (.consult caller lookup) = traffic.enter caller lookup := by
  simp only [after, hnone]

/-- A step changes nothing, or the call of one caller enters, finishes, breaks down or resumes. -/
theorem after_cases (traffic : Traffic) (step : Step) :
    traffic.after step = traffic ∨
    (∃ caller lookup, step = .consult caller lookup ∧ traffic.calls.get? caller = none ∧
      traffic.after step = traffic.enter caller lookup) ∨
    (∃ caller lookup guard result, step = .finish caller result ∧
      traffic.calls.get? caller = some ⟨lookup, .generate guard, none⟩ ∧
        traffic.after step = traffic.finish caller lookup guard result) ∨
    (∃ caller lookup guard, step = .breakDown caller ∧
      traffic.calls.get? caller = some ⟨lookup, .generate guard, none⟩ ∧
        traffic.after step = traffic.breakDown caller lookup guard) ∨
    (∃ caller lookup generation, step = .resume caller ∧ traffic.Waits caller lookup generation ∧
      traffic.after step = traffic.resume caller lookup generation) := by
  cases step with
  | consult caller lookup =>
    simp only [after]
    split
    next hnone => exact .inr (.inl ⟨caller, lookup, rfl, hnone, rfl⟩)
    next => exact .inl rfl
  | finish caller result =>
    simp only [after]
    split
    next lookup guard hcall =>
      exact .inr (.inr (.inl ⟨caller, lookup, guard, result, rfl, hcall, rfl⟩))
    next => exact .inl rfl
  | breakDown caller =>
    simp only [after]
    split
    next lookup guard hcall =>
      exact .inr (.inr (.inr (.inl ⟨caller, lookup, guard, rfl, hcall, rfl⟩)))
    next => exact .inl rfl
  | resume caller =>
    simp only [after]
    split
    next lookup generation hcall =>
      exact .inr (.inr (.inr (.inr ⟨caller, lookup, generation, rfl, hcall, rfl⟩)))
    next => exact .inl rfl

end Traffic

end TokenMint
