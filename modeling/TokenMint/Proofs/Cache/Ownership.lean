import TokenMint.Proofs.Cache.Traffic

/-!
# Who owns a slot

A slot under which a generation runs belongs to exactly one call, the one that was told to run this
generation; a verdict is out once this call has ended; and every caller that waits for a generation
has a call to wait for. `Ownership` states this of a traffic. It holds before the first call, and it
is kept when a call changes that runs no generation (`Ownership.setCall`), when a generation starts
(`Ownership.start`) and when one ends (`Ownership.conclude`).
-/

set_option autoImplicit false
set_option relaxedAutoImplicit false

namespace TokenMint.Traffic

/-- Slots under which generations run, the calls that run them, verdicts and callers that wait
belong together. -/
structure Ownership (traffic : Traffic) : Prop where
  /-- A call that runs a generation owns the slot of its key, and its guard remembers what the slot
  kept before. -/
  slot_of_runs {caller : String} {lookup : Lookup} {guard : Guard}
    (hruns : traffic.Runs caller lookup guard) :
    traffic.cache.slot lookup.key = .regenerating guard.previous guard.generation
  /-- A slot under which a generation runs is owned by a call. -/
  runs_of_slot {key : String} {previous : Option Kept} {generation : Nat}
    (hslot : traffic.cache.slot key = .regenerating previous generation) :
    ∃ caller lookup, traffic.Runs caller lookup ⟨generation, previous⟩ ∧ lookup.key = key
  /-- There is a verdict on a generation once its call has ended. -/
  verdict_of_claimed {caller : String} {lookup : Lookup} {guard : Guard}
    {ending : Option Ending} (hclaimed : traffic.Claimed caller lookup guard ending) :
    traffic.cache.verdicts[guard.generation]? = some (ending.map Ending.verdict)
  /-- No two callers are told to run one generation. -/
  unique {caller other : String} {lookup otherLookup : Lookup} {guard otherGuard : Guard}
    {ending otherEnding : Option Ending}
    (hclaimed : traffic.Claimed caller lookup guard ending)
    (hother : traffic.Claimed other otherLookup otherGuard otherEnding)
    (hgeneration : guard.generation = otherGuard.generation) : caller = other
  /-- A caller waits for a generation that another one was told to run, for the same key. -/
  isClaimed_of_waits {caller : String} {lookup : Lookup} {generation : Nat}
    (hwaits : traffic.Waits caller lookup generation) : traffic.IsClaimed lookup.key generation

variable {traffic next : Traffic}

theorem ownership_initial (policy : Policy) : Ownership (initial policy) where
  slot_of_runs hruns := by simp [Runs, Claimed, initial] at hruns
  runs_of_slot hslot := by simp [initial] at hslot
  verdict_of_claimed hclaimed := by simp [Claimed, initial] at hclaimed
  unique hclaimed := by simp [Claimed, initial] at hclaimed
  isClaimed_of_waits hwaits := by simp [Waits, initial] at hwaits

/-! ### Consequences -/

namespace Ownership

theorem verdict?_of_claimed (hown : Ownership traffic) {caller : String} {lookup : Lookup}
    {guard : Guard} {ending : Option Ending}
    (hclaimed : traffic.Claimed caller lookup guard ending) :
    traffic.cache.verdict? guard.generation = ending.map Ending.verdict := by
  simp [Cache.verdict?, hown.verdict_of_claimed hclaimed]

theorem not_isDelivered (hown : Ownership traffic) {caller : String} {lookup : Lookup}
    {guard : Option Guard}
    (hcall : traffic.calls.get? caller = some ⟨lookup, .generate guard, none⟩) :
    traffic.isDelivered guard = false := by
  cases guard with
  | none => rfl
  | some guard =>
    have hruns : traffic.Claimed caller lookup guard none := hcall
    simp [isDelivered, hown.verdict?_of_claimed hruns]

theorem not_isAbandoned (hown : Ownership traffic) {caller : String} {lookup : Lookup}
    {guard : Guard} {ending : Option Ending}
    (hclaimed : traffic.Claimed caller lookup guard ending) :
    traffic.isAbandoned guard.generation = false := by
  cases ending with
  | some ending => simp [isAbandoned, hown.verdict?_of_claimed hclaimed]
  | none =>
    have hmem := (Table.mem_entries_iff ..).2 hclaimed
    have hany : (traffic.calls.entries.any fun entry ↦
        decide (generationOf entry.2.told = some guard.generation) && entry.2.ending.isNone) =
          true :=
      List.any_eq_true.2 ⟨_, hmem, by simp [generationOf]⟩
    simp [isAbandoned, hany]

/-- Callers that run generations for one key are one caller. -/
theorem runs_unique (hown : Ownership traffic) {caller other : String}
    {lookup otherLookup : Lookup} {guard otherGuard : Guard}
    (hruns : traffic.Runs caller lookup guard)
    (hother : traffic.Runs other otherLookup otherGuard)
    (hkey : otherLookup.key = lookup.key) : other = caller := by
  have hslot := hown.slot_of_runs hruns
  rw [← hkey, hown.slot_of_runs hother] at hslot
  exact hown.unique hother hruns (Slot.regenerating.inj hslot).2

/-! ### Steps that leave the claims alone -/

/-- A call that was told to run no generation may change in any way, as long as it waits only for
a generation that another call was told to run. -/
theorem setCall (hown : Ownership traffic) {caller : String} {call : Call}
    (hcache : next.cache = traffic.cache)
    (hcalls : next.calls = (traffic.setCall caller call).calls)
    (hold : ∀ lookup guard ending, ¬traffic.Claimed caller lookup guard ending)
    (hnew : ∀ guard, call.told ≠ .generate (some guard))
    (hwait : ∀ generation, call.told = .wait generation → call.ending = none →
      traffic.IsClaimed call.lookup.key generation) :
    Ownership next := by
  have hiff (other : String) (lookup : Lookup) (guard : Guard) (ending : Option Ending) :
      next.Claimed other lookup guard ending ↔ traffic.Claimed other lookup guard ending := by
    rw [claimed_iff_of_calls_eq hcalls]
    constructor
    · rintro (⟨-, rfl⟩ | ⟨-, h⟩)
      · exact absurd rfl (hnew guard)
      · exact h
    · intro h
      refine .inr ⟨?_, h⟩
      rintro rfl
      exact hold lookup guard ending h
  constructor
  · intro other lookup guard hruns
    rw [hcache]
    exact hown.slot_of_runs ((hiff ..).1 hruns)
  · intro key previous generation hslot
    rw [hcache] at hslot
    obtain ⟨other, lookup, hruns, hkey⟩ := hown.runs_of_slot hslot
    exact ⟨other, lookup, (hiff ..).2 hruns, hkey⟩
  · intro other lookup guard ending hclaimed
    rw [hcache]
    exact hown.verdict_of_claimed ((hiff ..).1 hclaimed)
  · intro first second firstLookup secondLookup guard secondGuard ending secondEnding hfirst hsecond
    exact hown.unique ((hiff ..).1 hfirst) ((hiff ..).1 hsecond)
  · intro other lookup generation hwaits
    have hwon : traffic.IsClaimed lookup.key generation := by
      rcases (waits_iff_of_calls_eq hcalls ..).1 hwaits with ⟨-, rfl⟩ | ⟨-, hwaits⟩
      · exact hwait generation rfl rfl
      · exact hown.isClaimed_of_waits hwaits
    obtain ⟨winner, won, guard, ending, hclaimed, hgeneration, hkey⟩ := hwon
    exact ⟨winner, won, guard, ending, (hiff ..).2 hclaimed, hgeneration, hkey⟩

/-! ### Steps that start or end a generation -/

theorem start (hown : Ownership traffic) {caller : String} {lookup : Lookup}
    {previous : Option Kept} (hnone : traffic.calls.get? caller = none)
    (hidle : traffic.cache.slot lookup.key = .ofKept previous)
    (hcache : next.cache = (traffic.cache.start lookup.key previous).2)
    (hcalls : next.calls = (traffic.setCall caller
      ⟨lookup, .generate (some ⟨traffic.cache.verdicts.length, previous⟩), none⟩).calls) :
    Ownership next := by
  have hslot (key : String) : next.cache.slot key =
      if key = lookup.key then .regenerating previous traffic.cache.verdicts.length
      else traffic.cache.slot key := by
    rw [hcache, Cache.slot_start]
  have hverdicts : next.cache.verdicts = traffic.cache.verdicts ++ [none] := by
    rw [hcache]
    rfl
  have hbound {other : String} {otherLookup : Lookup} {guard : Guard} {ending : Option Ending}
      (h : traffic.Claimed other otherLookup guard ending) :
      guard.generation < traffic.cache.verdicts.length :=
    (List.getElem?_eq_some_iff.1 (hown.verdict_of_claimed h)).1
  have hkeep {other : String} {otherLookup : Lookup} {guard : Guard} {ending : Option Ending}
      (h : traffic.Claimed other otherLookup guard ending) :
      next.Claimed other otherLookup guard ending := by
    refine (claimed_iff_of_calls_eq hcalls ..).2 (.inr ⟨?_, h⟩)
    rintro rfl
    rw [Claimed, hnone] at h
    cases h
  constructor
  · intro other otherLookup guard hruns
    rcases (claimed_iff_of_calls_eq hcalls ..).1 hruns with ⟨-, hnew⟩ | ⟨-, hruns⟩
    · cases hnew
      rw [hslot, if_pos rfl]
    · have hother := hown.slot_of_runs hruns
      have hkey : otherLookup.key ≠ lookup.key := by
        intro hkey
        rw [hkey, hidle] at hother
        exact Slot.ofKept_ne_regenerating _ _ _ hother
      rw [hslot, if_neg hkey, hother]
  · intro key otherPrevious generation hregenerating
    rw [hslot] at hregenerating
    split at hregenerating
    next hkey =>
      obtain ⟨rfl, rfl⟩ := Slot.regenerating.inj hregenerating
      exact ⟨caller, lookup, (claimed_iff_of_calls_eq hcalls ..).2 (.inl ⟨rfl, rfl⟩), hkey.symm⟩
    next =>
      obtain ⟨other, otherLookup, hruns, hkey⟩ := hown.runs_of_slot hregenerating
      exact ⟨other, otherLookup, hkeep hruns, hkey⟩
  · intro other otherLookup guard ending hclaimed
    rw [hverdicts]
    rcases (claimed_iff_of_calls_eq hcalls ..).1 hclaimed with ⟨-, hnew⟩ | ⟨-, hclaimed⟩
    · cases hnew
      simp
    · rw [List.getElem?_append_left (hbound hclaimed)]
      exact hown.verdict_of_claimed hclaimed
  · intro first second firstLookup secondLookup guard secondGuard ending secondEnding hfirst
      hsecond hgeneration
    rcases (claimed_iff_of_calls_eq hcalls ..).1 hfirst with ⟨rfl, hnew⟩ | ⟨-, hfirst⟩
    · rcases (claimed_iff_of_calls_eq hcalls ..).1 hsecond with ⟨rfl, -⟩ | ⟨-, hsecond⟩
      · rfl
      · cases hnew
        exact absurd hgeneration (Nat.ne_of_gt (hbound hsecond))
    · rcases (claimed_iff_of_calls_eq hcalls ..).1 hsecond with ⟨rfl, hnew⟩ | ⟨-, hsecond⟩
      · cases hnew
        exact absurd hgeneration (Nat.ne_of_lt (hbound hfirst))
      · exact hown.unique hfirst hsecond hgeneration
  · intro other otherLookup generation hwaits
    rcases (waits_iff_of_calls_eq hcalls ..).1 hwaits with ⟨-, hnew⟩ | ⟨-, hwaits⟩
    · cases hnew
    · obtain ⟨winner, won, guard, ending, hclaimed, hrest⟩ := hown.isClaimed_of_waits hwaits
      exact ⟨winner, won, guard, ending, hkeep hclaimed, hrest⟩

theorem conclude (hown : Ownership traffic) {caller : String} {lookup : Lookup}
    {guard : Guard} {ending : Ending} {slot : Slot}
    (hruns : traffic.Runs caller lookup guard)
    (hslot : ∀ previous generation, slot ≠ .regenerating previous generation)
    (hcache : next.cache =
      traffic.cache.conclude lookup.key guard.generation slot ending.verdict)
    (hcalls : next.calls =
      (traffic.setCall caller ⟨lookup, .generate (some guard), some ending⟩).calls) :
    Ownership next := by
  have hslots (key : String) : next.cache.slot key =
      if key = lookup.key then slot else traffic.cache.slot key := by
    rw [hcache, Cache.slot_conclude]
  have hverdicts : next.cache.verdicts =
      traffic.cache.verdicts.set guard.generation (some ending.verdict) := by
    rw [hcache]
    rfl
  have hbound : guard.generation < traffic.cache.verdicts.length :=
    (List.getElem?_eq_some_iff.1 (hown.verdict_of_claimed hruns)).1
  have hended : next.Claimed caller lookup guard (some ending) :=
    (claimed_iff_of_calls_eq hcalls ..).2 (.inl ⟨rfl, rfl⟩)
  have hkeep {other : String} {otherLookup : Lookup} {otherGuard : Guard}
      {otherEnding : Option Ending} (hne : other ≠ caller)
      (h : traffic.Claimed other otherLookup otherGuard otherEnding) :
      next.Claimed other otherLookup otherGuard otherEnding :=
    (claimed_iff_of_calls_eq hcalls ..).2 (.inr ⟨hne, h⟩)
  constructor
  · intro other otherLookup otherGuard hother
    rcases (claimed_iff_of_calls_eq hcalls ..).1 hother with ⟨-, hnew⟩ | ⟨hne, hother⟩
    · cases hnew
    · have hkey : otherLookup.key ≠ lookup.key := fun hkey ↦
        hne (hown.runs_unique hruns hother hkey)
      rw [hslots, if_neg hkey, hown.slot_of_runs hother]
  · intro key previous generation hregenerating
    rw [hslots] at hregenerating
    split at hregenerating
    next => exact absurd hregenerating (hslot previous generation)
    next hkey =>
      obtain ⟨other, otherLookup, hother, hotherKey⟩ := hown.runs_of_slot hregenerating
      have hne : other ≠ caller := by
        rintro rfl
        obtain ⟨rfl, -⟩ := Call.mk.inj (Option.some.inj (hother.symm.trans hruns))
        exact hkey hotherKey.symm
      exact ⟨other, otherLookup, hkeep hne hother, hotherKey⟩
  · intro other otherLookup otherGuard otherEnding hclaimed
    rw [hverdicts]
    rcases (claimed_iff_of_calls_eq hcalls ..).1 hclaimed with ⟨-, hnew⟩ | ⟨hne, hclaimed⟩
    · cases hnew
      simp [hbound]
    · have hgeneration : guard.generation ≠ otherGuard.generation := fun hgeneration ↦
        hne (hown.unique hclaimed hruns hgeneration.symm)
      rw [List.getElem?_set_ne hgeneration]
      exact hown.verdict_of_claimed hclaimed
  · intro first second firstLookup secondLookup firstGuard secondGuard firstEnding secondEnding
      hfirst hsecond hgeneration
    rcases (claimed_iff_of_calls_eq hcalls ..).1 hfirst with ⟨rfl, hnew⟩ | ⟨-, hfirst⟩
    · rcases (claimed_iff_of_calls_eq hcalls ..).1 hsecond with ⟨rfl, -⟩ | ⟨-, hsecond⟩
      · rfl
      · cases hnew
        exact hown.unique hruns hsecond hgeneration
    · rcases (claimed_iff_of_calls_eq hcalls ..).1 hsecond with ⟨rfl, hnew⟩ | ⟨-, hsecond⟩
      · cases hnew
        exact hown.unique hfirst hruns hgeneration
      · exact hown.unique hfirst hsecond hgeneration
  · intro other otherLookup generation hwaits
    rcases (waits_iff_of_calls_eq hcalls ..).1 hwaits with ⟨-, hnew⟩ | ⟨-, hwaits⟩
    · cases hnew
    · obtain ⟨winner, won, otherGuard, otherEnding, hclaimed, hgeneration, hkey⟩ :=
        hown.isClaimed_of_waits hwaits
      by_cases hwinner : winner = caller
      · subst hwinner
        obtain ⟨rfl, htold, -⟩ := Call.mk.inj (Option.some.inj (hclaimed.symm.trans hruns))
        obtain rfl := Option.some.inj (Instruction.generate.inj htold)
        exact ⟨winner, won, _, _, hended, hgeneration, hkey⟩
      · exact ⟨winner, won, otherGuard, otherEnding, hkeep hwinner hclaimed, hgeneration, hkey⟩

end Ownership

end TokenMint.Traffic
