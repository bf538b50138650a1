import TokenMint.Proofs.Cache.SingleFlight

/-!
# Failed generations leave no trace

A generation runs until its own caller ends it (`after_of_runs`), and its guard remembers what the
slot kept when the caller came (`consult_generates`). A failure puts that back, so after a failed
generation the slot is as it was before (`afterAttempt_eq`). While no generation runs, nobody changes
a slot who does not ask for its key (`after_of_idle`), and so the next caller is told what it would
have been told without the failure (`failure_leaves_no_trace`).
-/

set_option autoImplicit false
set_option relaxedAutoImplicit false

namespace TokenMint.Traffic

variable {traffic next : Traffic}

/-- A step in which a caller delivers a result or breaks down. -/
def Step.Ends (caller : String) : Step → Prop
  | finish other _ => other = caller
  | breakDown other => other = caller
  | _ => False

/-- A step in which a caller asks for tokens of a key that are to be kept. -/
def Step.Asks (key : String) : Step → Prop
  | consult _ lookup => lookup.key = key ∧ lookup.ttl.isZero = false
  | _ => False

theorem Failure.ends_step (failure : Failure) (caller : String) :
    (failure.step caller).Ends caller := by
  cases failure <;> rfl

/-- The traffic after a caller was told to run a generation, others took some steps, and the
generation failed. -/
def afterAttempt (traffic : Traffic) (caller : String) (lookup : Lookup) (during : List Step)
    (failure : Failure) : Traffic :=
  traffic.afterAll (.consult caller lookup :: during ++ [failure.step caller])

/-! ### What other callers leave alone -/

/-- A generation runs until its own caller ends it, and until then nothing is published for its
key. -/
theorem after_of_runs (hown : Ownership traffic) {caller : String} {lookup : Lookup}
    {guard : Guard} (hruns : traffic.Runs caller lookup guard) {step : Step}
    (hstep : ¬step.Ends caller) :
    (traffic.after step).Runs caller lookup guard ∧
      (traffic.after step).publishedFor lookup.key = traffic.publishedFor lookup.key := by
  have hnew {other : String} (hnone : traffic.calls.get? other = none) : caller ≠ other := by
    rintro rfl
    rw [Runs, Claimed, hnone] at hruns
    cases hruns
  have hchange := change_after hown step
  generalize traffic.after step = next at hchange ⊢
  cases hchange with
  | idle => exact ⟨hruns, rfl⟩
  | told hnone => exact ⟨(claimed_iff_of_calls_eq rfl ..).2 (.inr ⟨hnew hnone, hruns⟩), rfl⟩
  | started hnone => exact ⟨(claimed_iff_of_calls_eq rfl ..).2 (.inr ⟨hnew hnone, hruns⟩), rfl⟩
  | done hcall htold =>
    refine ⟨(claimed_iff_of_calls_eq rfl ..).2 (.inr ⟨?_, hruns⟩), rfl⟩
    rintro rfl
    obtain ⟨-, rfl, -⟩ := Call.mk.inj (Option.some.inj (hcall.symm.trans hruns))
    exact htold guard rfl
  | @succeeded other otherLookup otherGuard minted hother =>
    have hne : caller ≠ other := fun h ↦ hstep h.symm
    have hkey : otherLookup.key ≠ lookup.key := fun h ↦
      hne (hown.runs_unique hother hruns h.symm)
    refine ⟨(claimed_iff_of_calls_eq rfl ..).2 (.inr ⟨hne, hruns⟩), ?_⟩
    rw [publishedFor_concat lookup.key rfl, if_neg hkey, List.append_nil]
  | @failed other otherLookup otherGuard failure hother =>
    refine ⟨(claimed_iff_of_calls_eq rfl ..).2 (.inr ⟨?_, hruns⟩), rfl⟩
    rintro rfl
    exact hstep (failure.ends_step caller)

theorem afterAll_of_runs (hown : Ownership traffic) {caller : String} {lookup : Lookup}
    {guard : Guard} (hruns : traffic.Runs caller lookup guard) {steps : List Step}
    (hsteps : ∀ step ∈ steps, ¬step.Ends caller) :
    (traffic.afterAll steps).Runs caller lookup guard ∧
      (traffic.afterAll steps).publishedFor lookup.key = traffic.publishedFor lookup.key := by
  induction steps generalizing traffic with
  | nil => exact ⟨hruns, rfl⟩
  | cons step steps ih =>
    obtain ⟨hstep, hrest⟩ := List.forall_mem_cons.1 hsteps
    obtain ⟨hafter, hpublished⟩ := after_of_runs hown hruns hstep
    obtain ⟨hlast, hlastPublished⟩ := ih (hown.change (change_after hown step)) hafter hrest
    exact ⟨hlast, hlastPublished.trans hpublished⟩

/-- Nobody touches a slot under which no generation runs without asking for its key. -/
theorem after_of_idle (hown : Ownership traffic) {key : String}
    (hidle : ∀ previous generation, traffic.cache.slot key ≠ .regenerating previous generation)
    {step : Step} (hstep : ¬step.Asks key) :
    (traffic.after step).cache.slot key = traffic.cache.slot key := by
  have hne {caller : String} {lookup : Lookup} {guard : Guard}
      (hruns : traffic.Runs caller lookup guard) : key ≠ lookup.key := by
    rintro rfl
    exact hidle guard.previous guard.generation (hown.slot_of_runs hruns)
  have hchange := change_after hown step
  generalize traffic.after step = next at hchange ⊢
  cases hchange with
  | idle => rfl
  | told => rfl
  | @started caller lookup previous hnone hslot hexpired hlifetime =>
    have hkey : key ≠ lookup.key := fun h ↦ hstep ⟨h.symm, hlifetime⟩
    simp only [Cache.slot_start, if_neg hkey]
  | done => rfl
  | succeeded hruns => simp only [Cache.slot_conclude, if_neg (hne hruns)]
  | failed failure hruns => simp only [afterFailed, Cache.slot_conclude, if_neg (hne hruns)]

theorem afterAll_of_idle (hown : Ownership traffic) {key : String}
    (hidle : ∀ previous generation, traffic.cache.slot key ≠ .regenerating previous generation)
    {steps : List Step} (hsteps : ∀ step ∈ steps, ¬step.Asks key) :
    (traffic.afterAll steps).cache.slot key = traffic.cache.slot key := by
  induction steps generalizing traffic with
  | nil => rfl
  | cons step steps ih =>
    obtain ⟨hstep, hrest⟩ := List.forall_mem_cons.1 hsteps
    have hslot := after_of_idle hown hidle hstep
    rw [← hslot] at hidle
    rw [afterAll_cons, ih (hown.change (change_after hown step)) hidle hrest, hslot]

/-! ### Attempts that fail -/

/-- A caller that is told to run a generation found a slot under which none ran, and its guard
remembers what the slot kept. -/
theorem consult_generates {caller : String} {lookup : Lookup} {guard : Guard}
    (hnone : traffic.calls.get? caller = none)
    (hgenerate : (traffic.cache.consult lookup).1 = .generate (some guard)) :
    traffic.cache.slot lookup.key = .ofKept guard.previous ∧
      (traffic.after (.consult caller lookup)).Runs caller lookup guard ∧
        (traffic.after (.consult caller lookup)).published = traffic.published := by
  have hafter := after_consult lookup hnone
  refine ⟨Cache.slot_of_generate hgenerate, ?_, ?_⟩
  · rw [hafter, enter, hgenerate]
    exact Table.get?_insert_self ..
  · rw [hafter, enter]
    rfl

/-- An attempt that fails puts the slot back as it was, publishes nothing for its key, and answers
the caller with its own failure. -/
theorem afterAttempt_eq (hown : Ownership traffic) {caller : String} {lookup : Lookup}
    {guard : Guard} {during : List Step} (failure : Failure)
    (hnone : traffic.calls.get? caller = none)
    (hgenerate : (traffic.cache.consult lookup).1 = .generate (some guard))
    (hduring : ∀ step ∈ during, ¬step.Ends caller) :
    let failed := traffic.afterAttempt caller lookup during failure
    failed.cache.slot lookup.key = traffic.cache.slot lookup.key ∧
      failed.Claimed caller lookup guard (some failure.ending) ∧
        failed.publishedFor lookup.key = traffic.publishedFor lookup.key := by
  obtain ⟨hidle, hruns, hpublished⟩ := consult_generates hnone hgenerate
  have hownStarted := hown.change (change_after hown (.consult caller lookup))
  obtain ⟨hrunsLast, hpublishedLast⟩ := afterAll_of_runs hownStarted hruns hduring
  have hfailed : traffic.afterAttempt caller lookup during failure =
      ((traffic.after (.consult caller lookup)).afterAll during).afterFailed caller lookup
        guard failure := by
    rw [afterAttempt, afterAll_append, afterAll_cons]
    exact after_failure (hownStarted.afterAll during) hrunsLast failure
  simp only [hfailed]
  refine ⟨?_, ?_, ?_⟩
  · simp only [afterFailed, Cache.slot_conclude, if_pos]
    rw [hidle]
  · exact Table.get?_insert_self ..
  · calc ((traffic.after (.consult caller lookup)).afterAll during).publishedFor lookup.key
        = (traffic.after (.consult caller lookup)).publishedFor lookup.key := hpublishedLast
      _ = traffic.publishedFor lookup.key := by rw [publishedFor, hpublished, publishedFor]

/-- What a caller is told for tokens that are to be kept, when no generation runs for the key. -/
theorem consult_of_idle (cache : Cache) {next : Lookup}
    (hidle : ∀ previous generation, cache.slot next.key ≠ .regenerating previous generation)
    (hlifetime : next.ttl.isZero = false) :
    (∀ kept, cache.slot next.key = .ready kept → next.now < kept.expiresAt →
      (cache.consult next).1 = .served ⟨kept.minted, .hit⟩) ∧
    ((∀ kept, cache.slot next.key = .ready kept → kept.expiresAt ≤ next.now) →
      ∃ guard, (cache.consult next).1 = .generate (some guard)) := by
  rcases cache.consult_cases next with ⟨hzero, -⟩ | ⟨kept, hslot, hfresh, h⟩ |
    ⟨kept, number, hslot, -, -⟩ | ⟨previous, number, hslot, -⟩ | ⟨previous, hslot, hexpired, -, h⟩
  · rw [hlifetime] at hzero
    cases hzero
  · refine ⟨fun other hother _ ↦ ?_, fun hall ↦ ?_⟩
    · obtain rfl := Slot.ready.inj (hslot.symm.trans hother)
      rw [h]
    · have hle := (Kept.not_isFresh_iff ..).2 (hall kept hslot)
      rw [hfresh] at hle
      cases hle
  · exact absurd hslot (hidle (some kept) number)
  · exact absurd hslot (hidle previous number)
  · refine ⟨fun kept hready hlt ↦ ?_, fun _ ↦ ⟨_, by rw [h]; rfl⟩⟩
    rw [hready] at hslot
    cases previous with
    | none => cases hslot
    | some other =>
      obtain rfl := Slot.ready.inj hslot
      have hfresh := (Kept.isFresh_iff ..).2 hlt
      rw [hexpired kept rfl] at hfresh
      cases hfresh

/-- A slot under which no generation runs keeps what was published last, and nothing if nothing
was. -/
theorem History.slot_of_idle (hhist : History traffic) {key : String}
    (hidle : ∀ previous generation, traffic.cache.slot key ≠ .regenerating previous generation) :
    traffic.cache.slot key = .ofKept ((traffic.lastPublished? key).map Publication.kept) := by
  rw [← hhist.kept_slot]
  exact Slot.eq_ofKept hidle

/-- A generation fails, after whatever others have done since its caller was told to run it. Then
the slot is what it was before, the caller is answered with its own failure, and nothing has been
published for the key. The next caller of the key is served what was kept if that has not expired,
and generates otherwise. And as long as nothing more is published for the key, its slot is the same
whenever no generation runs, and keeps what was published last. -/
theorem failure_leaves_no_trace (policy : Policy) (steps during : List Step) (caller : String)
    (lookup : Lookup) (guard : Guard) (failure : Failure)
    (hnone : (run policy steps).calls.get? caller = none)
    (hgenerate : ((run policy steps).cache.consult lookup).1 = .generate (some guard))
    (hduring : ∀ step ∈ during, ¬step.Ends caller) :
    let before := run policy steps
    let failed := before.afterAttempt caller lookup during failure
    failed.cache.slot lookup.key = before.cache.slot lookup.key ∧
    failed.Claimed caller lookup guard (some failure.ending) ∧
    failed.publishedFor lookup.key = before.publishedFor lookup.key ∧
    (∀ between next, (∀ step ∈ between, ¬step.Asks lookup.key) → next.key = lookup.key →
      next.ttl.isZero = false →
      (∀ kept, before.cache.slot lookup.key = .ready kept → next.now < kept.expiresAt →
        ((failed.afterAll between).cache.consult next).1 = .served ⟨kept.minted, .hit⟩) ∧
      ((∀ kept, before.cache.slot lookup.key = .ready kept → kept.expiresAt ≤ next.now) →
        ∃ other, ((failed.afterAll between).cache.consult next).1 = .generate (some other))) ∧
    (∀ later, (failed.afterAll later).publishedFor lookup.key = failed.publishedFor lookup.key →
      (∀ previous number,
        (failed.afterAll later).cache.slot lookup.key ≠ .regenerating previous number) →
      (failed.afterAll later).cache.slot lookup.key = before.cache.slot lookup.key ∧
      before.cache.slot lookup.key =
        .ofKept ((before.lastPublished? lookup.key).map Publication.kept)) := by
  intro before failed
  have hown := ownership_run policy steps
  have hhist := history_run policy steps
  obtain ⟨hslot, hclaimed, hpublished⟩ := afterAttempt_eq hown failure hnone hgenerate hduring
  obtain ⟨hkept, -⟩ := consult_generates hnone hgenerate
  have hidle : ∀ previous number,
      before.cache.slot lookup.key ≠ .regenerating previous number := by
    rw [hkept]
    exact Slot.ofKept_ne_regenerating guard.previous
  have hownFailed : Ownership failed := hown.afterAll _
  have hhistFailed : History failed := hhist.afterAll hown _
  refine ⟨hslot, hclaimed, hpublished, ?_, ?_⟩
  · intro between next hbetween hkey hlifetime
    have hsame : (failed.afterAll between).cache.slot next.key = before.cache.slot next.key := by
      rw [hkey, afterAll_of_idle hownFailed (by rwa [hslot]) hbetween, hslot]
    rw [← hkey, ← hsame]
    exact consult_of_idle _ (by rwa [hsame, hkey]) hlifetime
  · intro later hlater hlaterIdle
    have hbefore := hhist.slot_of_idle hidle
    refine ⟨?_, hbefore⟩
    rw [(hhistFailed.afterAll hownFailed later).slot_of_idle hlaterIdle, hbefore,
      lastPublished?, hlater, hpublished, lastPublished?]

/-- Tokens for five seconds are published at the start of time. A minute later a caller generates
and breaks down, while a second one waits for it and a third one generates for another key. Once the
clock has been set back, the old tokens are served again. -/
theorem failure_leaves_no_trace_set_back :
    let minted : Minted := ⟨["old"], [], .zero⟩
    let late : Lookup := ⟨"site", .ofSeconds 60, .ofSeconds 5⟩
    let other : Lookup := ⟨"api", .ofSeconds 60, .ofSeconds 5⟩
    let before := run .blockUntilPublished
      [.consult "a" ⟨"site", .zero, .ofSeconds 5⟩, .finish "a" (.ok minted)]
    let failed := before.afterAttempt "b" late
      [.consult "c" late, .consult "d" other, .finish "d" (.ok minted)] .breakdown
    failed.cache.slot "site" = before.cache.slot "site" ∧
      failed.Claimed "b" late ⟨1, some ⟨minted, .ofSeconds 5⟩⟩ (some .brokenDown) ∧
        (failed.cache.consult ⟨"site", .ofSeconds 3, .ofSeconds 5⟩).1 =
          .served ⟨minted, .hit⟩ := by
  intro minted late other before failed
  have hnone : before.calls.get? "b" = none := rfl
  have hgenerate : (before.cache.consult late).1 =
      .generate (some ⟨1, some ⟨minted, .ofSeconds 5⟩⟩) := by decide
  have hready : before.cache.slot late.key = .ready ⟨minted, .ofSeconds 5⟩ := by decide
  obtain ⟨hslot, hclaimed, -, hnext, -⟩ := failure_leaves_no_trace .blockUntilPublished _
    [.consult "c" late, .consult "d" other, .finish "d" (.ok minted)] "b" late _ .breakdown hnone
    hgenerate (by simp [Step.Ends])
  have hserved := (hnext [] ⟨"site", .ofSeconds 3, .ofSeconds 5⟩ (by simp) rfl (by decide)).1
    ⟨minted, .ofSeconds 5⟩ hready (by decide)
  rw [afterAll_nil] at hserved
  exact ⟨hslot, hclaimed, hserved⟩

end TokenMint.Traffic
