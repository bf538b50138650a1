import TokenMint.Proofs.Cache.Ownership

/-!
# What a step can change

Where slots have owners, a step is one of six kinds, which `Change` lists with all that they change:
it is not due; a new caller is told something that leaves the cache as it is; a new caller starts a
generation; a call is done that ran no generation; a generation succeeds; a generation fails.
`change_after` says that there are no other steps. Every kind keeps the owners of slots, and so
slots have owners after every run (`ownership_run`).
-/

set_option autoImplicit false
set_option relaxedAutoImplicit false

namespace TokenMint.Traffic

variable {traffic next : Traffic}

/-- The traffic after a caller has failed that ran a generation. -/
def afterFailed (traffic : Traffic) (caller : String) (lookup : Lookup) (guard : Guard)
    (failure : Failure) : Traffic :=
  { traffic.setCall caller ⟨lookup, .generate (some guard), some failure.ending⟩ with
    cache := traffic.cache.conclude lookup.key guard.generation (.ofKept guard.previous)
      failure.ending.verdict }

/-- What a step can do to a traffic in which slots have owners. -/
inductive Change (traffic : Traffic) : Step → Traffic → Prop where
  /-- The step is not due. -/
  | idle (step : Step) : Change traffic step traffic
  /-- A new caller is served, has to wait, or generates for itself alone. -/
  | told {caller : String} {lookup : Lookup} {told : Instruction}
    (hnone : traffic.calls.get? caller = none)
    (hconsult : traffic.cache.consult lookup = (told, traffic.cache))
    (htold : ∀ guard, told ≠ .generate (some guard)) :
    Change traffic (.consult caller lookup)
      (traffic.setCall caller ⟨lookup, told, endingOf told⟩)
  /-- A new caller starts a generation. -/
  | started {caller : String} {lookup : Lookup} {previous : Option Kept}
    (hnone : traffic.calls.get? caller = none)
    (hidle : traffic.cache.slot lookup.key = .ofKept previous)
    (hexpired : ∀ kept, previous = some kept → kept.isFresh lookup.now = false)
    (hlifetime : lookup.ttl.isZero = false) :
    Change traffic (.consult caller lookup)
      { traffic.setCall caller
          ⟨lookup, .generate (some ⟨traffic.cache.verdicts.length, previous⟩), none⟩ with
        cache := (traffic.cache.start lookup.key previous).2 }
  /-- A caller is done that waited or generated for itself alone. -/
  | done {step : Step} {caller : String} {lookup : Lookup} {told : Instruction}
    {ending : Ending} (hcall : traffic.calls.get? caller = some ⟨lookup, told, none⟩)
    (htold : ∀ guard, told ≠ .generate (some guard))
    (houtcome : ∀ served, ending = .answered (.ok served) →
      served.outcome = .awaited ∨ served.outcome = .bypassed) :
    Change traffic step (traffic.setCall caller ⟨lookup, told, some ending⟩)
  /-- A generation succeeds. -/
  | succeeded {caller : String} {lookup : Lookup} {guard : Guard} {minted : Minted}
    (hruns : traffic.Runs caller lookup guard) :
    Change traffic (.finish caller (.ok minted))
      { traffic.setCall caller ⟨lookup, .generate (some guard),
          some (.answered (.ok ⟨minted, .generated⟩))⟩ with
        cache := traffic.cache.conclude lookup.key guard.generation
          (.ready (Publication.kept ⟨lookup, minted⟩)) (.ok minted)
        published := traffic.published ++ [⟨lookup, minted⟩] }
  /-- A generation fails. -/
  | failed {caller : String} {lookup : Lookup} {guard : Guard} (failure : Failure)
    (hruns : traffic.Runs caller lookup guard) :
    Change traffic (failure.step caller) (traffic.afterFailed caller lookup guard failure)

theorem change_enter {caller : String} {lookup : Lookup}
    (hnone : traffic.calls.get? caller = none) :
    Change traffic (.consult caller lookup) (traffic.enter caller lookup) := by
  have htold {told : Instruction} (hconsult : traffic.cache.consult lookup = (told, traffic.cache))
      (hnew : ∀ guard, told ≠ .generate (some guard)) :
      Change traffic (.consult caller lookup) (traffic.enter caller lookup) := by
    have henter : traffic.enter caller lookup =
        traffic.setCall caller ⟨lookup, told, endingOf told⟩ := by
      simp [enter, hconsult, Traffic.setCall]
    rw [henter]
    exact .told hnone hconsult hnew
  rcases traffic.cache.consult_cases lookup with ⟨-, hconsult⟩ | ⟨kept, -, -, hconsult⟩ |
    ⟨kept, generation, -, -, hconsult⟩ | ⟨previous, generation, -, hconsult⟩ |
    ⟨previous, hidle, hexpired, hlifetime, hconsult⟩
  · exact htold hconsult (by simp)
  · exact htold hconsult (by simp)
  · exact htold hconsult (by simp)
  · exact htold hconsult (by simp)
  · have henter : traffic.enter caller lookup =
        { traffic.setCall caller
            ⟨lookup, .generate (some ⟨traffic.cache.verdicts.length, previous⟩), none⟩ with
          cache := (traffic.cache.start lookup.key previous).2 } := by
      rw [enter, hconsult]
      rfl
    rw [henter]
    exact .started hnone hidle hexpired hlifetime

theorem finish_error (hown : Ownership traffic) {caller : String} {lookup : Lookup}
    {guard : Guard} (hruns : traffic.Runs caller lookup guard) (error : TokenError) :
    traffic.finish caller lookup (some guard) (.error error) =
      traffic.afterFailed caller lookup guard (.error error) := by
  simp [finish, hown.not_isDelivered hruns, Cache.deliver, Cache.release, publicationOf,
    Traffic.setCall, afterFailed, Failure.ending, Ending.verdict]

theorem breakDown_some (hown : Ownership traffic) {caller : String} {lookup : Lookup}
    {guard : Guard} (hruns : traffic.Runs caller lookup guard) :
    traffic.breakDown caller lookup (some guard) =
      traffic.afterFailed caller lookup guard .breakdown := by
  simp [breakDown, hown.not_isDelivered hruns, Cache.abandon, Cache.release, afterFailed,
    Failure.ending, Ending.verdict]

/-- A caller that runs a generation may fail at any time. -/
theorem after_failure (hown : Ownership traffic) {caller : String} {lookup : Lookup}
    {guard : Guard} (hruns : traffic.Runs caller lookup guard) (failure : Failure) :
    traffic.after (failure.step caller) =
      traffic.afterFailed caller lookup guard failure := by
  have hcall : traffic.calls.get? caller =
      some ⟨lookup, .generate (some guard), none⟩ := hruns
  cases failure with
  | error error => simp only [Failure.step, after, hcall, finish_error hown hruns]
  | breakdown => simp only [Failure.step, after, hcall, breakDown_some hown hruns]

theorem change_finish (hown : Ownership traffic) {caller : String} {lookup : Lookup}
    {guard : Option Guard} (result : Except TokenError Minted)
    (hcall : traffic.calls.get? caller = some ⟨lookup, .generate guard, none⟩) :
    Change traffic (.finish caller result) (traffic.finish caller lookup guard result) := by
  have hdelivered := hown.not_isDelivered hcall
  cases guard with
  | none =>
    have hfinish : traffic.finish caller lookup none result =
        traffic.setCall caller ⟨lookup, .generate none,
          some (.answered (traffic.cache.deliver lookup none result).1)⟩ := by
      cases result <;> simp [finish, isDelivered, Cache.deliver, publicationOf, Traffic.setCall]
    rw [hfinish]
    refine .done hcall (by simp) ?_
    intro served hserved
    cases result with
    | ok minted =>
      simp only [Cache.deliver, Ending.answered.injEq, Except.ok.injEq] at hserved
      exact .inr (by rw [← hserved])
    | error error => simp [Cache.deliver] at hserved
  | some guard =>
    cases result with
    | ok minted =>
      have hfinish : traffic.finish caller lookup (some guard) (.ok minted) =
          { traffic.setCall caller ⟨lookup, .generate (some guard),
              some (.answered (.ok ⟨minted, .generated⟩))⟩ with
            cache := traffic.cache.conclude lookup.key guard.generation
              (.ready (Publication.kept ⟨lookup, minted⟩)) (.ok minted)
            published := traffic.published ++ [⟨lookup, minted⟩] } := by
        simp [finish, hdelivered, Cache.deliver, publicationOf, Publication.kept]
      rw [hfinish]
      exact .succeeded hcall
    | error error =>
      rw [finish_error hown hcall]
      exact .failed (.error error) hcall

theorem change_breakDown (hown : Ownership traffic) {caller : String} {lookup : Lookup}
    {guard : Option Guard}
    (hcall : traffic.calls.get? caller = some ⟨lookup, .generate guard, none⟩) :
    Change traffic (.breakDown caller) (traffic.breakDown caller lookup guard) := by
  cases guard with
  | none =>
    have hbreak : traffic.breakDown caller lookup none =
        traffic.setCall caller ⟨lookup, .generate none, some .brokenDown⟩ := by
      simp [breakDown, isDelivered, Cache.abandon, Traffic.setCall]
    rw [hbreak]
    exact .done hcall (by simp) (by simp)
  | some guard =>
    rw [breakDown_some hown hcall]
    exact .failed .breakdown hcall

/-- The traffic after a caller that waits has looked at how the call ended that it waits for. -/
def afterLook (traffic : Traffic) (caller : String) (lookup : Lookup) (generation : Nat) :
    Option Ending → Traffic
  | some ending => traffic.setCall caller ⟨lookup, .wait generation,
      some (.answered (ending.verdict.map fun minted ↦ ⟨minted, .awaited⟩))⟩
  | none => traffic

/-- The answer to a caller that waited is the verdict on the call that ran the generation. -/
theorem resume_eq (hown : Ownership traffic) {winner : String} {won : Lookup} {guard : Guard}
    {ending : Option Ending} (hclaimed : traffic.Claimed winner won guard ending)
    (caller : String) (lookup : Lookup) :
    traffic.resume caller lookup guard.generation =
      traffic.afterLook caller lookup guard.generation ending := by
  have hverdict := hown.verdict?_of_claimed hclaimed
  cases ending with
  | some ending => simp [resume, Cache.await?, hverdict, afterLook]
  | none => simp [resume, Cache.await?, hverdict, hown.not_isAbandoned hclaimed, afterLook]

theorem change_resume (hown : Ownership traffic) {caller : String} {lookup : Lookup}
    {generation : Nat} (hwaits : traffic.Waits caller lookup generation) :
    Change traffic (.resume caller) (traffic.resume caller lookup generation) := by
  obtain ⟨winner, won, guard, ending, hclaimed, rfl, -⟩ := hown.isClaimed_of_waits hwaits
  rw [resume_eq hown hclaimed caller lookup]
  cases ending with
  | none => exact .idle _
  | some ending =>
    refine .done hwaits (by simp) ?_
    intro served hserved
    cases hverdict : ending.verdict with
    | ok minted =>
      simp only [hverdict, Except.map, Ending.answered.injEq, Except.ok.injEq] at hserved
      exact .inl (by rw [← hserved])
    | error error => simp [hverdict, Except.map] at hserved

/-- A step that is taken where slots have owners is one of six kinds. -/
theorem change_after (hown : Ownership traffic) (step : Step) :
    Change traffic step (traffic.after step) := by
  rcases traffic.after_cases step with hafter | ⟨caller, lookup, rfl, hnone, hafter⟩ |
    ⟨caller, lookup, guard, result, rfl, hcall, hafter⟩ |
    ⟨caller, lookup, guard, rfl, hcall, hafter⟩ |
    ⟨caller, lookup, generation, rfl, hwaits, hafter⟩
  · rw [hafter]
    exact .idle step
  · rw [hafter]
    exact change_enter hnone
  · rw [hafter]
    exact change_finish hown result hcall
  · rw [hafter]
    exact change_breakDown hown hcall
  · rw [hafter]
    exact change_resume hown hwaits

theorem Ownership.change (hown : Ownership traffic) {step : Step}
    (hchange : Change traffic step next) : Ownership next := by
  cases hchange with
  | idle => exact hown
  | @told caller lookup told hnone hconsult htold =>
    refine hown.setCall rfl rfl ?_ htold ?_
    · intro other guard ending hclaimed
      rw [Claimed, hnone] at hclaimed
      cases hclaimed
    · intro generation hwait _
      obtain rfl : told = .wait generation := hwait
      obtain ⟨previous, hslot⟩ := Cache.slot_of_wait (congrArg Prod.fst hconsult)
      obtain ⟨winner, won, hruns, hkey⟩ := hown.runs_of_slot hslot
      exact ⟨winner, won, _, none, hruns, rfl, hkey⟩
  | started hnone hidle _ _ => exact hown.start hnone hidle rfl rfl
  | done hcall htold _ =>
    refine hown.setCall rfl rfl ?_ htold (by simp)
    intro other guard ending hclaimed
    obtain ⟨-, rfl, -⟩ := Call.mk.inj (Option.some.inj (hcall.symm.trans hclaimed))
    exact htold guard rfl
  | succeeded hruns => exact hown.conclude hruns (by simp) rfl rfl
  | failed failure hruns =>
    exact hown.conclude hruns (Slot.ofKept_ne_regenerating _) rfl rfl

theorem Ownership.afterAll (hown : Ownership traffic) (steps : List Step) :
    Ownership (traffic.afterAll steps) := by
  induction steps generalizing traffic with
  | nil => exact hown
  | cons step steps ih => exact ih (hown.change (change_after hown step))

/-- What every change keeps where slots have owners is kept by several steps. -/
theorem Ownership.afterAll_induction {holds : Traffic → Prop}
    (hkept : ∀ {traffic next : Traffic} {step : Step}, Ownership traffic → holds traffic →
      Change traffic step next → holds next)
    (hown : Ownership traffic) (hstart : holds traffic) (steps : List Step) :
    holds (traffic.afterAll steps) := by
  induction steps generalizing traffic with
  | nil => exact hstart
  | cons step steps ih =>
    have hchange := change_after hown step
    exact ih (hown.change hchange) (hkept hown hstart hchange)

/-- Slots have owners after every run. -/
theorem ownership_run (policy : Policy) (steps : List Step) : Ownership (run policy steps) :=
  (ownership_initial policy).afterAll steps

end TokenMint.Traffic
