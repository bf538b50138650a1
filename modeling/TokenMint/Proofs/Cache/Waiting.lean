import TokenMint.Proofs.Cache.Change

/-!
# What becomes of those who wait

A caller that has to wait joins one generation, and what it gets is decided by the call that was
told to run this generation, whatever else happens to the key in the meantime. While that call is
under way it owns the slot and there is no verdict; once it has ended, the verdict is out and stays.
`waiters_served` says what a waiting caller is answered for each way in which that call can end. It
also says that nobody delivers a generation twice and nobody waits in vain.
-/

set_option autoImplicit false
set_option relaxedAutoImplicit false

namespace TokenMint.Traffic

variable {traffic next : Traffic}

/-- A call that was told to run a generation and is answered with tokens has generated them. -/
def GeneratesItsOwn (traffic : Traffic) : Prop :=
  ∀ caller lookup guard served,
    traffic.Claimed caller lookup guard (some (.answered (.ok served))) →
      served.outcome = .generated

theorem GeneratesItsOwn.change (hgen : GeneratesItsOwn traffic) {step : Step}
    (hchange : Change traffic step next) : GeneratesItsOwn next := by
  intro other otherLookup guard served hclaimed
  cases hchange with
  | idle => exact hgen _ _ _ _ hclaimed
  | told _ _ htold =>
    rcases (claimed_iff_of_calls_eq rfl ..).1 hclaimed with ⟨-, hnew⟩ | ⟨-, hold⟩
    · exact absurd (congrArg Call.told hnew) (htold guard)
    · exact hgen _ _ _ _ hold
  | started =>
    rcases (claimed_iff_of_calls_eq rfl ..).1 hclaimed with ⟨-, hnew⟩ | ⟨-, hold⟩
    · cases hnew
    · exact hgen _ _ _ _ hold
  | done _ htold _ =>
    rcases (claimed_iff_of_calls_eq rfl ..).1 hclaimed with ⟨-, hnew⟩ | ⟨-, hold⟩
    · exact absurd (congrArg Call.told hnew) (htold guard)
    · exact hgen _ _ _ _ hold
  | succeeded =>
    rcases (claimed_iff_of_calls_eq rfl ..).1 hclaimed with ⟨-, hnew⟩ | ⟨-, hold⟩
    · cases hnew
      rfl
    · exact hgen _ _ _ _ hold
  | failed failure =>
    rcases (claimed_iff_of_calls_eq rfl ..).1 hclaimed with ⟨-, hnew⟩ | ⟨-, hold⟩
    · cases failure <;> cases hnew
    · exact hgen _ _ _ _ hold

theorem generatesItsOwn_run (policy : Policy) (steps : List Step) :
    GeneratesItsOwn (run policy steps) := by
  refine (ownership_initial policy).afterAll_induction
    (fun _ hgen hchange ↦ GeneratesItsOwn.change hgen hchange) ?_ steps
  intro caller lookup guard served hclaimed
  simp [Claimed, initial] at hclaimed

theorem after_resume (hown : Ownership traffic) {waiter winner : String} {lookup won : Lookup}
    {guard : Guard} {ending : Option Ending}
    (hwaits : traffic.Waits waiter lookup guard.generation)
    (hclaimed : traffic.Claimed winner won guard ending) :
    traffic.after (.resume waiter) = traffic.afterLook waiter lookup guard.generation ending := by
  rw [← resume_eq hown hclaimed waiter lookup]
  simp only [after, show traffic.calls.get? waiter = _ from hwaits]

/-- A waiting caller whose generation has ended gets the verdict. -/
theorem get?_after_resume (hown : Ownership traffic) {waiter winner : String}
    {lookup won : Lookup} {guard : Guard} {ending : Ending}
    (hwaits : traffic.Waits waiter lookup guard.generation)
    (hclaimed : traffic.Claimed winner won guard (some ending)) :
    (traffic.after (.resume waiter)).calls.get? waiter =
      some ⟨lookup, .wait guard.generation,
        some (.answered (ending.verdict.map fun minted ↦ ⟨minted, .awaited⟩))⟩ := by
  rw [after_resume hown hwaits hclaimed, afterLook, calls_setCall, if_pos rfl]

/-- What becomes of callers that wait. -/
structure WaitersServed (traffic : Traffic) : Prop where
  /-- A caller waits for one generation of its key, which one other call was told to run. -/
  joined {waiter : String} {lookup : Lookup} {generation : Nat}
    (hwaits : traffic.Waits waiter lookup generation) :
    ∃ winner won guard ending, traffic.Claimed winner won guard ending ∧
      guard.generation = generation ∧ won.key = lookup.key ∧
        ∀ other otherLookup otherGuard otherEnding,
          traffic.Claimed other otherLookup otherGuard otherEnding →
            otherGuard.generation = generation → other = winner
  /-- As long as that call is under way, it owns the slot, there is no verdict, and the caller goes
  on waiting. -/
  running {waiter winner : String} {lookup won : Lookup} {guard : Guard}
    (hwaits : traffic.Waits waiter lookup guard.generation)
    (hruns : traffic.Runs winner won guard) :
    traffic.cache.slot won.key = .regenerating guard.previous guard.generation ∧
      traffic.cache.verdict? guard.generation = none ∧ traffic.after (.resume waiter) = traffic
  /-- When it has generated tokens, they are the verdict, and the caller gets the same tokens. -/
  succeeded {waiter winner : String} {lookup won : Lookup} {guard : Guard} {served : Served}
    (hwaits : traffic.Waits waiter lookup guard.generation)
    (hclaimed : traffic.Claimed winner won guard (some (.answered (.ok served)))) :
    served.outcome = .generated ∧
      traffic.cache.verdict? guard.generation = some (.ok served.minted) ∧
        (traffic.after (.resume waiter)).calls.get? waiter =
          some ⟨lookup, .wait guard.generation, some (.answered (.ok ⟨served.minted, .awaited⟩))⟩
  /-- When it has failed, the caller gets the message of its error. -/
  failed {waiter winner : String} {lookup won : Lookup} {guard : Guard} {error : TokenError}
    (hwaits : traffic.Waits waiter lookup guard.generation)
    (hclaimed : traffic.Claimed winner won guard (some (.answered (.error error)))) :
    traffic.cache.verdict? guard.generation = some (.error (.regenerationFailed error.message)) ∧
      (traffic.after (.resume waiter)).calls.get? waiter =
        some ⟨lookup, .wait guard.generation,
          some (.answered (.error (.regenerationFailed error.message)))⟩
  /-- When it has broken down, the caller is told so. -/
  brokenDown {waiter winner : String} {lookup won : Lookup} {guard : Guard}
    (hwaits : traffic.Waits waiter lookup guard.generation)
    (hclaimed : traffic.Claimed winner won guard (some .brokenDown)) :
    traffic.cache.verdict? guard.generation =
        some (.error (.regenerationFailed "token generator panicked")) ∧
      (traffic.after (.resume waiter)).calls.get? waiter =
        some ⟨lookup, .wait guard.generation,
          some (.answered (.error (.regenerationFailed "token generator panicked")))⟩
  /-- Nobody waits for a generation that no call could deliver. -/
  not_abandoned {waiter : String} {lookup : Lookup} {generation : Nat}
    (hwaits : traffic.Waits waiter lookup generation) : traffic.isAbandoned generation = false
  /-- Nobody who generates finds its generation delivered already. -/
  not_delivered {caller : String} {lookup : Lookup} {guard : Option Guard}
    (hcall : traffic.calls.get? caller = some ⟨lookup, .generate guard, none⟩) :
    traffic.isDelivered guard = false

/-- Whatever the policy, and in whatever order callers consult the cache, generate, fail, break
down and wait. -/
theorem waiters_served (policy : Policy) (steps : List Step) :
    WaitersServed (run policy steps) := by
  have hown := ownership_run policy steps
  constructor
  · intro waiter lookup generation hwaits
    obtain ⟨winner, won, guard, ending, hclaimed, rfl, hkey⟩ := hown.isClaimed_of_waits hwaits
    refine ⟨winner, won, guard, ending, hclaimed, rfl, hkey, ?_⟩
    intro other otherLookup otherGuard otherEnding hother hgeneration
    exact hown.unique hother hclaimed hgeneration
  · intro waiter winner lookup won guard hwaits hruns
    exact ⟨hown.slot_of_runs hruns, hown.verdict?_of_claimed hruns,
      after_resume hown hwaits hruns⟩
  · intro waiter winner lookup won guard served hwaits hclaimed
    exact ⟨generatesItsOwn_run policy steps _ _ _ _ hclaimed,
      hown.verdict?_of_claimed hclaimed, get?_after_resume hown hwaits hclaimed⟩
  · intro waiter winner lookup won guard error hwaits hclaimed
    exact ⟨hown.verdict?_of_claimed hclaimed, get?_after_resume hown hwaits hclaimed⟩
  · intro waiter winner lookup won guard hwaits hclaimed
    exact ⟨hown.verdict?_of_claimed hclaimed, get?_after_resume hown hwaits hclaimed⟩
  · intro waiter lookup generation hwaits
    obtain ⟨winner, won, guard, ending, hclaimed, rfl, -⟩ := hown.isClaimed_of_waits hwaits
    exact hown.not_isAbandoned hclaimed
  · intro caller lookup guard hcall
    exact hown.not_isDelivered hcall

/-- A caller waits for a generation that breaks down. The key is generated anew and its new tokens
are published before the caller looks, and still it gets the verdict on the generation it joined. -/
theorem waiters_served_late :
    let lookup : Lookup := ⟨"site", .zero, .ofSeconds 5⟩
    let traffic := run .blockUntilPublished
      [.consult "a" lookup, .consult "b" lookup, .breakDown "a", .consult "c" lookup,
        .finish "c" (.ok ⟨["new"], [], .zero⟩)]
    traffic.Waits "b" lookup 0 ∧ traffic.Claimed "a" lookup ⟨0, none⟩ (some .brokenDown) ∧
      (traffic.after (.resume "b")).calls.get? "b" = some ⟨lookup, .wait 0,
        some (.answered (.error (.regenerationFailed "token generator panicked")))⟩ := by
  intro lookup traffic
  have hwaits : traffic.Waits "b" lookup 0 := rfl
  have hclaimed : traffic.Claimed "a" lookup ⟨0, none⟩ (some .brokenDown) := rfl
  exact ⟨hwaits, hclaimed, ((waiters_served .blockUntilPublished _).brokenDown hwaits hclaimed).2⟩

end TokenMint.Traffic
