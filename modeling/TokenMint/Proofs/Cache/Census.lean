import TokenMint.Proofs.Cache.Failure
import Mathlib.Data.Finset.Card

/-!
# What the statistics count

The statistics of a cache count its slots by their condition. Here they are read as counts of keys:
how many keys callers have asked for, and for how many of them a generation runs, none has succeeded
yet, or the last one that succeeded has expired or not.

A caller that asks for tokens which are to be kept first sees to it that its key has a slot, and
consults the cache only then, and others may act in between. So an `Attendance` is a traffic and the
look-ups of callers that have come, and to come is a `Move` of its own. It makes no difference to
what anybody is told (`Cache.slot_withSlot`, `Traffic.consult_come`), but it adds a slot that is
counted. The keys with slots are those that were asked for (`Traffic.SlotsAsked`), none of them is
ever given up (`Attendance.Sound.keys_subset`), the condition of a slot follows from the generations
for its key (`Traffic.condition_slot`), and so the statistics are a `Census`, whatever callers do
(`Attendance.census_stats`).
-/

set_option autoImplicit false
set_option relaxedAutoImplicit false

namespace TokenMint

/-! ### Callers come -/

namespace Cache

/-- The cache in which a key has a slot, an empty one if it had none. -/
def withSlot (cache : Cache) (key : String) : Cache :=
  match cache.slots.get? key with
  | some _ => cache
  | none => cache.setSlot key .empty

theorem withSlot_cases (cache : Cache) (key : String) :
    cache.withSlot key = cache ∨
      (cache.slots.get? key = none ∧ cache.withSlot key = cache.setSlot key .empty) := by
  unfold withSlot
  split
  next => exact .inl rfl
  next hnone => exact .inr ⟨hnone, rfl⟩

/-- A new slot keeps nothing, as if there were none. -/
theorem slot_withSlot (cache : Cache) (key other : String) :
    (cache.withSlot key).slot other = cache.slot other := by
  rcases cache.withSlot_cases key with hsame | ⟨hnone, hnew⟩
  · rw [hsame]
  · rw [hnew, slot_setSlot]
    split
    next hkey => rw [hkey, slot, hnone, Option.getD_none]
    next => rfl

@[simp]
theorem verdicts_withSlot (cache : Cache) (key : String) :
    (cache.withSlot key).verdicts = cache.verdicts := by
  rcases cache.withSlot_cases key with hsame | ⟨-, hnew⟩
  · rw [hsame]
  · rw [hnew]
    rfl

theorem mem_keys_withSlot (cache : Cache) (key other : String) :
    other ∈ (cache.withSlot key).slots.keys ↔ other = key ∨ other ∈ cache.slots.keys := by
  unfold withSlot
  split
  next slot hslot =>
    have hkey := (cache.slots.mem_keys_iff key).2 ⟨slot, hslot⟩
    constructor
    · exact .inr
    · rintro (rfl | hother)
      · exact hkey
      · exact hother
  next => exact Table.mem_keys_insert ..

/-- Consulting a cache puts a slot into the table if need be, so that it makes no difference whether
the caller has seen to that before. -/
theorem consult_withSlot (cache : Cache) {lookup : Lookup} (hlifetime : lookup.ttl.isZero = false) :
    (cache.withSlot lookup.key).consult lookup = cache.consult lookup := by
  rcases cache.withSlot_cases lookup.key with hsame | ⟨hnone, hnew⟩
  · rw [hsame]
  · have hempty : cache.slot lookup.key = .empty := by rw [slot, hnone, Option.getD_none]
    have hslot := cache.slot_withSlot lookup.key lookup.key
    rw [hempty] at hslot
    simp only [consult, hlifetime, hslot, hempty, Bool.false_eq_true, if_false]
    rw [hnew]
    simp only [start, setSlot, Table.insert_insert]

end Cache

/-- Tokens of a key are looked up that are to be kept. -/
def Lookup.Asks (lookup : Lookup) (key : String) : Prop :=
  lookup.key = key ∧ lookup.ttl.isZero = false

namespace Traffic

variable {traffic next : Traffic}

/-- The traffic in which a key has a slot, an empty one if it had none. -/
def withSlot (traffic : Traffic) (key : String) : Traffic :=
  { traffic with cache := traffic.cache.withSlot key }

/-- The traffic after a caller has come, who sees to it that its key has a slot if its tokens are to
be kept. -/
def come (traffic : Traffic) (lookup : Lookup) : Traffic :=
  if lookup.ttl.isZero then traffic else traffic.withSlot lookup.key

/-- Consulting the cache has the caller come first, so that it makes no difference if it has come
before. -/
theorem consult_come (traffic : Traffic) (lookup : Lookup) :
    (traffic.come lookup).cache.consult lookup = traffic.cache.consult lookup := by
  unfold Traffic.come
  split
  next => rfl
  next hlifetime =>
    exact traffic.cache.consult_withSlot (Bool.eq_false_of_not_eq_true hlifetime)

theorem Ownership.withSlot (hown : Ownership traffic) (key : String) :
    Ownership (traffic.withSlot key) where
  slot_of_runs hruns := (traffic.cache.slot_withSlot ..).trans (hown.slot_of_runs hruns)
  runs_of_slot hslot := hown.runs_of_slot ((traffic.cache.slot_withSlot ..).symm.trans hslot)
  verdict_of_claimed hclaimed := by
    rw [Traffic.withSlot, Cache.verdicts_withSlot]
    exact hown.verdict_of_claimed hclaimed
  unique hclaimed hother := hown.unique hclaimed hother
  isClaimed_of_waits hwaits := hown.isClaimed_of_waits hwaits

theorem Ownership.come (hown : Ownership traffic) (lookup : Lookup) :
    Ownership (traffic.come lookup) := by
  unfold Traffic.come
  split
  · exact hown
  · exact hown.withSlot lookup.key

theorem History.withSlot (hhist : History traffic) (key : String) :
    History (traffic.withSlot key) :=
  hhist.of_published_eq rfl
    (fun other ↦ congrArg Slot.kept? (traffic.cache.slot_withSlot key other))
    (fun _ _ _ hruns ↦ hruns)

theorem History.come (hhist : History traffic) (lookup : Lookup) :
    History (traffic.come lookup) := by
  unfold Traffic.come
  split
  · exact hhist
  · exact hhist.withSlot lookup.key

/-! ### Keys that callers ask for -/

/-- A caller has consulted the cache for tokens of a key that are to be kept. -/
def Asked (traffic : Traffic) (key : String) : Prop :=
  ∃ caller call, traffic.calls.get? caller = some call ∧ call.lookup.Asks key

theorem not_asked_initial (policy : Policy) (key : String) : ¬(initial policy).Asked key := by
  rintro ⟨caller, call, hcall, -⟩
  cases hcall

/-- Nobody stops having asked when a call is set, if its look-up stays the same. -/
theorem asked_iff_of_calls_eq {caller : String} {call : Call}
    (hcalls : next.calls = (traffic.setCall caller call).calls)
    (hold : ∀ old, traffic.calls.get? caller = some old → old.lookup = call.lookup)
    (key : String) : next.Asked key ↔ call.lookup.Asks key ∨ traffic.Asked key := by
  constructor
  · rintro ⟨other, otherCall, hcall, hasks⟩
    rw [hcalls, calls_setCall] at hcall
    split at hcall
    next =>
      obtain rfl := Option.some.inj hcall
      exact .inl hasks
    next => exact .inr ⟨other, otherCall, hcall, hasks⟩
  · rintro (hasks | ⟨other, otherCall, hcall, hasks⟩)
    · exact ⟨caller, call, by rw [hcalls, calls_setCall, if_pos rfl], hasks⟩
    · by_cases hother : other = caller
      · subst hother
        rw [hold otherCall hcall] at hasks
        exact ⟨other, call, by rw [hcalls, calls_setCall, if_pos rfl], hasks⟩
      · exact ⟨other, otherCall, by rw [hcalls, calls_setCall, if_neg hother, hcall], hasks⟩

/-- Who is told anything but to start a generation finds a slot, or asks for tokens that are not to
be kept. -/
theorem mem_keys_of_told {lookup : Lookup} {told : Instruction}
    (hconsult : traffic.cache.consult lookup = (told, traffic.cache))
    (htold : ∀ guard, told ≠ .generate (some guard)) {key : String} (hasks : lookup.Asks key) :
    key ∈ traffic.cache.slots.keys := by
  obtain ⟨rfl, hlifetime⟩ := hasks
  refine traffic.cache.mem_keys_of_slot_ne fun hempty ↦ ?_
  rcases traffic.cache.consult_cases lookup with ⟨hzero, -⟩ | ⟨kept, hslot, -, -⟩ |
    ⟨kept, generation, hslot, -, -⟩ | ⟨previous, generation, hslot, -⟩ | ⟨previous, -, -, -, h⟩
  · rw [hlifetime] at hzero
    cases hzero
  · cases hempty.symm.trans hslot
  · cases hempty.symm.trans hslot
  · cases hempty.symm.trans hslot
  · exact htold _ (congrArg Prod.fst (hconsult.symm.trans h))

/-- The keys with slots are those that were asked for, here or elsewhere. -/
def SlotsAsked (traffic : Traffic) (elsewhere : String → Prop) : Prop :=
  ∀ key, key ∈ traffic.cache.slots.keys ↔ elsewhere key ∨ traffic.Asked key

variable {elsewhere : String → Prop}

/-- It stays so if with the call that is set its key gets a slot, or has one. -/
theorem SlotsAsked.setCall (hasked : traffic.SlotsAsked elsewhere) {caller : String} {call : Call}
    (hcalls : next.calls = (traffic.setCall caller call).calls)
    (hold : ∀ old, traffic.calls.get? caller = some old → old.lookup = call.lookup)
    (hkeys : ∀ key, key ∈ next.cache.slots.keys ↔
      call.lookup.Asks key ∨ key ∈ traffic.cache.slots.keys) :
    next.SlotsAsked elsewhere := by
  intro key
  rw [hkeys, hasked key, asked_iff_of_calls_eq hcalls hold, or_left_comm]

/-- It stays so in every step. -/
theorem SlotsAsked.change (hasked : traffic.SlotsAsked elsewhere) (hown : Ownership traffic)
    {step : Step} (hchange : Change traffic step next) : next.SlotsAsked elsewhere := by
  have hnew {caller : String} {lookup : Lookup} (hnone : traffic.calls.get? caller = none)
      (old : Call) (hold : traffic.calls.get? caller = some old) : old.lookup = lookup := by
    rw [hnone] at hold
    cases hold
  have hsame {caller : String} {lookup : Lookup} {told : Instruction} {ending : Option Ending}
      (hcall : traffic.calls.get? caller = some ⟨lookup, told, ending⟩) (old : Call)
      (hold : traffic.calls.get? caller = some old) : old.lookup = lookup :=
    congrArg Call.lookup (Option.some.inj (hold.symm.trans hcall))
  -- A generation that runs has a slot, so that none is added when it ends.
  have hends {caller : String} {lookup : Lookup} {guard : Guard}
      (hruns : traffic.Runs caller lookup guard) (slot : Slot) (verdict : Verdict) (key : String) :
      key ∈ (traffic.cache.conclude lookup.key guard.generation slot verdict).slots.keys ↔
        lookup.Asks key ∨ key ∈ traffic.cache.slots.keys := by
    have hslot : lookup.key ∈ traffic.cache.slots.keys :=
      traffic.cache.mem_keys_of_slot_ne (by simp [hown.slot_of_runs hruns])
    rw [Cache.mem_keys_conclude, or_iff_right_of_imp fun h : key = lookup.key ↦ h ▸ hslot,
      or_iff_right_of_imp fun h : lookup.Asks key ↦ h.1 ▸ hslot]
  cases hchange with
  | idle => exact hasked
  | told hnone hconsult htold =>
    refine hasked.setCall rfl (hnew hnone) fun key ↦ ?_
    exact (or_iff_right_of_imp (mem_keys_of_told hconsult htold)).symm
  | @started caller lookup previous hnone hidle hexpired hlifetime =>
    refine hasked.setCall rfl (hnew hnone) fun key ↦ ?_
    rw [Cache.mem_keys_start, Lookup.Asks, and_iff_left hlifetime, eq_comm]
  | @done _ caller lookup told ending hcall =>
    refine hasked.setCall rfl (hsame hcall) fun key ↦ ?_
    have hkey : lookup.Asks key → key ∈ traffic.cache.slots.keys := fun hasks ↦
      (hasked key).2 (.inr ⟨caller, _, hcall, hasks⟩)
    exact (or_iff_right_of_imp hkey).symm
  | succeeded hruns => exact hasked.setCall rfl (hsame hruns) (hends hruns _ _)
  | failed failure hruns => exact hasked.setCall rfl (hsame hruns) (hends hruns _ _)

/-- Who comes for tokens that are to be kept adds its key to both. -/
theorem SlotsAsked.come (hasked : traffic.SlotsAsked elsewhere) (lookup : Lookup) :
    (traffic.come lookup).SlotsAsked fun key ↦ lookup.Asks key ∨ elsewhere key := by
  intro key
  change _ ↔ (lookup.Asks key ∨ elsewhere key) ∨ _
  unfold Traffic.come
  split
  next hzero =>
    have hnot : ¬lookup.Asks key := fun hasks ↦ by simp [hasks.2] at hzero
    rw [hasked key, or_iff_right hnot]
  next hlifetime =>
    have hasks : lookup.Asks key ↔ key = lookup.key := by
      rw [Lookup.Asks, and_iff_left (Bool.eq_false_of_not_eq_true hlifetime), eq_comm]
    rw [hasks, or_assoc]
    exact (Cache.mem_keys_withSlot ..).trans (or_congr_right (hasked key))

theorem keys_subset_come (traffic : Traffic) (lookup : Lookup) :
    traffic.cache.slots.keys ⊆ (traffic.come lookup).cache.slots.keys := by
  unfold Traffic.come
  split
  · exact List.Subset.refl _
  · exact fun key hkey ↦ (Cache.mem_keys_withSlot ..).2 (.inr hkey)

/-- No step takes a slot away. -/
theorem keys_subset_of_change {step : Step} (hchange : Change traffic step next) :
    traffic.cache.slots.keys ⊆ next.cache.slots.keys := by
  intro key hkey
  cases hchange with
  | idle => exact hkey
  | told => exact hkey
  | started => exact (Cache.mem_keys_start ..).2 (.inr hkey)
  | done => exact hkey
  | succeeded => exact (Cache.mem_keys_conclude ..).2 (.inr hkey)
  | failed => exact (Cache.mem_keys_conclude ..).2 (.inr hkey)

/-! ### Generations that run -/

/-- Whether a call runs a generation whose tokens are to be kept. -/
def Call.isRunning (call : Call) : Bool :=
  (generationOf call.told).isSome && call.ending.isNone

theorem Call.isRunning_iff (call : Call) :
    call.isRunning = true ↔ ∃ guard, call = ⟨call.lookup, .generate (some guard), none⟩ := by
  obtain ⟨lookup, told, ending⟩ := call
  constructor
  · intro hrunning
    obtain ⟨hgeneration, hnone⟩ := Bool.and_eq_true_iff.1 hrunning
    obtain rfl : ending = none := Option.isNone_iff_eq_none.1 hnone
    cases told with
    | served => cases hgeneration
    | wait => cases hgeneration
    | generate guard =>
      cases guard with
      | none => cases hgeneration
      | some guard => exact ⟨guard, rfl⟩
  · rintro ⟨guard, hcall⟩
    obtain ⟨-, rfl, rfl⟩ := Call.mk.inj hcall
    rfl

/-- The calls that run generations whose tokens are to be kept. -/
def running (traffic : Traffic) : List Call :=
  (traffic.calls.entries.map Prod.snd).filter Call.isRunning

/-- The keys of these generations. -/
def runningKeys (traffic : Traffic) : List String :=
  traffic.running.map fun call ↦ call.lookup.key

theorem mem_running (call : Call) : call ∈ traffic.running ↔
    ∃ caller guard, traffic.Runs caller call.lookup guard ∧
      call = ⟨call.lookup, .generate (some guard), none⟩ := by
  rw [running, List.mem_filter, Call.isRunning_iff, List.mem_map]
  constructor
  · rintro ⟨⟨⟨caller, _⟩, hmem, rfl⟩, guard, hcall⟩
    have hget := (Table.mem_entries_iff ..).1 hmem
    exact ⟨caller, guard, hget.trans (congrArg some hcall), hcall⟩
  · rintro ⟨caller, guard, hruns, hcall⟩
    refine ⟨⟨(caller, call), ?_, rfl⟩, guard, hcall⟩
    exact (Table.mem_entries_iff ..).2 (hruns.trans (congrArg some hcall.symm))

theorem mem_runningKeys (key : String) : key ∈ traffic.runningKeys ↔
    ∃ caller lookup guard, traffic.Runs caller lookup guard ∧ lookup.key = key := by
  simp only [runningKeys, List.mem_map, mem_running]
  constructor
  · rintro ⟨call, ⟨caller, guard, hruns, -⟩, hkey⟩
    exact ⟨caller, call.lookup, guard, hruns, hkey⟩
  · rintro ⟨caller, lookup, guard, hruns, hkey⟩
    exact ⟨⟨lookup, .generate (some guard), none⟩, ⟨caller, guard, hruns, rfl⟩, hkey⟩

/-- No two of these generations are for one key. -/
theorem nodup_runningKeys (hown : Ownership traffic) : traffic.runningKeys.Nodup := by
  have hdistinct := List.pairwise_map.1 traffic.calls.nodup_keys
  rw [runningKeys, running, List.Nodup, List.pairwise_map, List.pairwise_filter, List.pairwise_map]
  refine hdistinct.imp_of_mem ?_
  intro first second hfirst hsecond hne hfirstRuns hsecondRuns hkey
  obtain ⟨guard, hcall⟩ := (Call.isRunning_iff _).1 hfirstRuns
  obtain ⟨otherGuard, hotherCall⟩ := (Call.isRunning_iff _).1 hsecondRuns
  have hruns : traffic.Runs first.1 first.2.lookup guard :=
    ((Table.mem_entries_iff ..).1 hfirst).trans (congrArg some hcall)
  have hother : traffic.Runs second.1 second.2.lookup otherGuard :=
    ((Table.mem_entries_iff ..).1 hsecond).trans (congrArg some hotherCall)
  exact hne (hown.runs_unique hother hruns hkey)

/-! ### Conditions of slots -/

theorem Ownership.slot_of_mem_runningKeys (hown : Ownership traffic) {key : String}
    (hrunning : key ∈ traffic.runningKeys) :
    ∃ previous generation, traffic.cache.slot key = .regenerating previous generation := by
  obtain ⟨caller, lookup, guard, hruns, rfl⟩ := (mem_runningKeys key).1 hrunning
  exact ⟨guard.previous, guard.generation, hown.slot_of_runs hruns⟩

theorem Ownership.idle_of_not_mem_runningKeys (hown : Ownership traffic) {key : String}
    (hrunning : key ∉ traffic.runningKeys) (previous : Option Kept) (generation : Nat) :
    traffic.cache.slot key ≠ .regenerating previous generation := by
  intro hslot
  obtain ⟨caller, lookup, hruns, hkey⟩ := hown.runs_of_slot hslot
  exact hrunning ((mem_runningKeys key).2 ⟨caller, lookup, _, hruns, hkey⟩)

/-- The condition that the history of a key puts its slot into. -/
def conditionOf (traffic : Traffic) (now : Duration) (key : String) : Slot.Condition :=
  if key ∈ traffic.runningKeys then .regenerating
  else
    match traffic.lastPublished? key with
    | none => .empty
    | some last => if last.kept.isFresh now then .valid else .stale

theorem condition_slot (hown : Ownership traffic) (hhist : History traffic) (now : Duration)
    (key : String) : (traffic.cache.slot key).condition now = traffic.conditionOf now key := by
  by_cases hrunning : key ∈ traffic.runningKeys
  · obtain ⟨previous, generation, hslot⟩ := hown.slot_of_mem_runningKeys hrunning
    rw [hslot, conditionOf, if_pos hrunning, Slot.condition]
  · rw [hhist.slot_of_idle (hown.idle_of_not_mem_runningKeys hrunning), conditionOf,
      if_neg hrunning]
    cases traffic.lastPublished? key with
    | none => rfl
    | some last => rfl

theorem conditionOf_regenerating_iff (now : Duration) (key : String) :
    traffic.conditionOf now key = .regenerating ↔ key ∈ traffic.runningKeys := by
  unfold conditionOf
  split
  next hrunning => simp [hrunning]
  next hrunning =>
    cases traffic.lastPublished? key with
    | none => simp [hrunning]
    | some last => cases hfresh : last.kept.isFresh now <;> simp [hrunning, hfresh]

theorem conditionOf_empty_iff (now : Duration) (key : String) :
    traffic.conditionOf now key = .empty ↔
      key ∉ traffic.runningKeys ∧ traffic.publishedFor key = [] := by
  rw [← List.getLast?_eq_none_iff, ← lastPublished?]
  unfold conditionOf
  split
  next hrunning => simp [hrunning]
  next hrunning =>
    cases traffic.lastPublished? key with
    | none => simp [hrunning]
    | some last => cases hfresh : last.kept.isFresh now <;> simp [hfresh]

theorem conditionOf_valid_iff (now : Duration) (key : String) :
    traffic.conditionOf now key = .valid ↔ key ∉ traffic.runningKeys ∧
      ∃ last ∈ traffic.lastPublished? key, now < last.lookup.now + last.lookup.ttl := by
  unfold conditionOf
  split
  next hrunning => simp [hrunning]
  next hrunning =>
    cases traffic.lastPublished? key with
    | none => simp
    | some last =>
      have hfresh : last.kept.isFresh now = true ↔ now < last.lookup.now + last.lookup.ttl :=
        Kept.isFresh_iff ..
      simp [hrunning, ← hfresh]

theorem conditionOf_stale_iff (now : Duration) (key : String) :
    traffic.conditionOf now key = .stale ↔ key ∉ traffic.runningKeys ∧
      ∃ last ∈ traffic.lastPublished? key, last.lookup.now + last.lookup.ttl ≤ now := by
  unfold conditionOf
  split
  next hrunning => simp [hrunning]
  next hrunning =>
    cases traffic.lastPublished? key with
    | none => simp
    | some last =>
      have hexpired : last.kept.isFresh now = false ↔ last.lookup.now + last.lookup.ttl ≤ now :=
        Kept.not_isFresh_iff ..
      simp [hrunning, ← hexpired]

end Traffic

/-! ### Counting slots -/

namespace Cache

variable (cache : Cache) (now : Duration)

/-- Slots are counted as their keys are. -/
theorem countIn_eq_card (condition : Slot.Condition) :
    cache.countIn now condition =
      (cache.slots.keys.toFinset.filter fun key ↦
        (cache.slot key).condition now = condition).card := by
  have hslot : ∀ entry ∈ cache.slots.entries, cache.slot entry.1 = entry.2 := by
    intro entry hmem
    rw [slot, (Table.mem_entries_iff ..).1 hmem, Option.getD_some]
  have hcount : cache.countIn now condition = cache.slots.keys.countP fun key ↦
      decide ((cache.slot key).condition now = condition) := by
    rw [countIn, Table.keys, List.countP_map]
    exact List.countP_congr fun entry hmem ↦ by simp [hslot entry hmem]
  have hnodup : cache.slots.keys.Nodup := cache.slots.nodup_keys
  rw [hcount, List.countP_eq_length_filter, ← List.toFinset_card_of_nodup (hnodup.filter _)]
  congr 1
  ext key
  simp

/-- A slot is in one condition. -/
theorem sum_countIn : cache.countIn now .valid + cache.countIn now .stale +
    cache.countIn now .regenerating + cache.countIn now .empty = cache.slots.size := by
  simp only [countIn, Table.size]
  induction cache.slots.entries with
  | nil => rfl
  | cons entry rest ih =>
    cases hcondition : entry.2.condition now <;> simp [hcondition] <;> omega

end Cache

/-! ### The statistics at any time -/

/-- A traffic, and the callers that have come, whether they have consulted the cache yet or not. -/
structure Attendance where
  traffic : Traffic
  /-- What callers have come for, the last one first. -/
  arrived : List Lookup

namespace Attendance

/-- What can happen to an attendance. -/
inductive Move where
  /-- A caller comes. -/
  | come (lookup : Lookup)
  /-- A caller takes a step; the first one is to consult the cache. -/
  | act (step : Traffic.Step)

/-- Nobody has come yet. -/
def initial (policy : Policy) : Attendance :=
  ⟨.initial policy, []⟩

/-- The attendance after a move. -/
def after (attendance : Attendance) : Move → Attendance
  | .come lookup => ⟨attendance.traffic.come lookup, lookup :: attendance.arrived⟩
  | .act step => ⟨attendance.traffic.after step, attendance.arrived⟩

/-- The attendance after several moves. -/
def afterAll (attendance : Attendance) (moves : List Move) : Attendance :=
  moves.foldl after attendance

/-- The attendance at a new cache after several moves. -/
def run (policy : Policy) (moves : List Move) : Attendance :=
  (initial policy).afterAll moves

/-- All look-ups so far. -/
def lookups (attendance : Attendance) : List Lookup :=
  attendance.arrived ++ attendance.traffic.calls.entries.map fun entry ↦ entry.2.lookup

/-- The keys for which tokens have been asked that are to be kept. -/
def askedKeys (attendance : Attendance) : Finset String :=
  ((attendance.lookups.filter fun lookup ↦ !lookup.ttl.isZero).map Lookup.key).toFinset

/-- A caller has come for tokens of a key that are to be kept. -/
def Arrived (attendance : Attendance) (key : String) : Prop :=
  ∃ lookup ∈ attendance.arrived, lookup.Asks key

theorem arrived_come (attendance : Attendance) (lookup : Lookup) :
    (attendance.after (.come lookup)).Arrived =
      fun key ↦ lookup.Asks key ∨ attendance.Arrived key := by
  funext key
  simp [Attendance.Arrived, after]

theorem mem_askedKeys (attendance : Attendance) (key : String) :
    key ∈ attendance.askedKeys ↔
      attendance.Arrived key ∨ attendance.traffic.Asked key := by
  simp only [askedKeys, lookups, List.mem_toFinset, List.mem_map, List.mem_filter, List.mem_append,
    Bool.not_eq_true']
  constructor
  · rintro ⟨lookup, ⟨harrived | ⟨⟨caller, call⟩, hmem, rfl⟩, hlifetime⟩, hkey⟩
    · exact .inl ⟨lookup, harrived, hkey, hlifetime⟩
    · exact .inr ⟨caller, call, (Table.mem_entries_iff ..).1 hmem, hkey, hlifetime⟩
  · rintro (⟨lookup, harrived, hkey, hlifetime⟩ | ⟨caller, call, hcall, hkey, hlifetime⟩)
    · exact ⟨lookup, ⟨.inl harrived, hlifetime⟩, hkey⟩
    · exact ⟨call.lookup,
        ⟨.inr ⟨(caller, call), (Table.mem_entries_iff ..).2 hcall, rfl⟩, hlifetime⟩, hkey⟩

/-- What holds of every attendance: slots have owners, they keep what was published last, and the
keys that have slots are those that were asked for. -/
structure Sound (attendance : Attendance) : Prop where
  ownership : attendance.traffic.Ownership
  history : attendance.traffic.History
  slots : attendance.traffic.SlotsAsked attendance.Arrived

theorem sound_initial (policy : Policy) : Sound (initial policy) where
  ownership := Traffic.ownership_initial policy
  history := Traffic.history_initial policy
  slots key := by
    refine ⟨fun hkey ↦ absurd hkey List.not_mem_nil, ?_⟩
    rintro (⟨lookup, hlookup, -⟩ | hasked)
    · exact absurd hlookup List.not_mem_nil
    · exact absurd hasked (Traffic.not_asked_initial policy key)

theorem Sound.after {attendance : Attendance} (hsound : Sound attendance) (move : Move) :
    Sound (attendance.after move) := by
  cases move with
  | come lookup =>
    refine ⟨hsound.ownership.come lookup, hsound.history.come lookup, ?_⟩
    rw [arrived_come]
    exact hsound.slots.come lookup
  | act step =>
    have hchange := Traffic.change_after hsound.ownership step
    exact ⟨hsound.ownership.change hchange, hsound.history.change hsound.ownership hchange,
      hsound.slots.change hsound.ownership hchange⟩

theorem Sound.afterAll {attendance : Attendance} (hsound : Sound attendance) (moves : List Move) :
    Sound (attendance.afterAll moves) := by
  induction moves generalizing attendance with
  | nil => exact hsound
  | cons move moves ih => exact ih (hsound.after move)

theorem sound_run (policy : Policy) (moves : List Move) : Sound (run policy moves) :=
  (sound_initial policy).afterAll moves

/-- Slots are never given up. -/
theorem Sound.keys_subset {attendance : Attendance} (hsound : Sound attendance)
    (moves : List Move) : attendance.traffic.cache.slots.keys ⊆
      (attendance.afterAll moves).traffic.cache.slots.keys := by
  induction moves generalizing attendance with
  | nil => exact List.Subset.refl _
  | cons move moves ih =>
    refine List.Subset.trans ?_ (ih (hsound.after move))
    cases move with
    | come lookup => exact Traffic.keys_subset_come attendance.traffic lookup
    | act step => exact Traffic.keys_subset_of_change (Traffic.change_after hsound.ownership step)

/-- The keys with slots are those that were asked for. -/
theorem Sound.keys_toFinset {attendance : Attendance} (hsound : Sound attendance) :
    attendance.traffic.cache.slots.keys.toFinset = attendance.askedKeys := by
  ext key
  rw [List.mem_toFinset, hsound.slots key, mem_askedKeys]

theorem Sound.countIn {attendance : Attendance} (hsound : Sound attendance) (now : Duration)
    (condition : Slot.Condition) :
    attendance.traffic.cache.countIn now condition =
      (attendance.askedKeys.filter fun key ↦
        attendance.traffic.conditionOf now key = condition).card := by
  rw [Cache.countIn_eq_card, hsound.keys_toFinset]
  simp only [Traffic.condition_slot hsound.ownership hsound.history]

theorem Sound.regenerating {attendance : Attendance} (hsound : Sound attendance)
    (now : Duration) : attendance.traffic.cache.countIn now .regenerating =
      attendance.traffic.running.length := by
  -- A generation that runs was asked for, since its key has a slot.
  have hasked (key : String) (hkey : key ∈ attendance.traffic.runningKeys) :
      key ∈ attendance.askedKeys := by
    obtain ⟨previous, generation, hslot⟩ := hsound.ownership.slot_of_mem_runningKeys hkey
    rw [← hsound.keys_toFinset, List.mem_toFinset]
    exact Cache.mem_keys_of_slot_ne _ (by simp [hslot])
  have hkeys : (attendance.askedKeys.filter fun key ↦
      attendance.traffic.conditionOf now key = .regenerating) =
        attendance.traffic.runningKeys.toFinset := by
    ext key
    rw [Finset.mem_filter, Traffic.conditionOf_regenerating_iff, List.mem_toFinset]
    exact and_iff_right_of_imp (hasked key)
  calc attendance.traffic.cache.countIn now .regenerating
      = attendance.traffic.runningKeys.toFinset.card := by rw [hsound.countIn, hkeys]
    _ = attendance.traffic.runningKeys.length :=
        List.toFinset_card_of_nodup (Traffic.nodup_runningKeys hsound.ownership)
    _ = attendance.traffic.running.length := List.length_map _

/-- What the statistics of a cache say about its keys at an instant. Generations are those whose
tokens are to be kept. -/
structure Census (attendance : Attendance) (now : Duration) (stats : Cache.Stats) : Prop where
  /-- All keys are counted for which tokens have been asked that are to be kept. -/
  total : stats.total = attendance.askedKeys.card
  /-- Every key is counted in one condition. -/
  partition : stats.valid + stats.stale + stats.regenerating + stats.empty = stats.total
  /-- The generations that run are counted. -/
  regenerating : stats.regenerating = attendance.traffic.running.length
  /-- The keys are counted for which no generation runs and none ever succeeded. -/
  empty : stats.empty = (attendance.askedKeys.filter fun key ↦
    key ∉ attendance.traffic.runningKeys ∧ attendance.traffic.publishedFor key = []).card
  /-- The keys are counted for which no generation runs and the last that succeeded has not
  expired. -/
  valid : stats.valid = (attendance.askedKeys.filter fun key ↦
    key ∉ attendance.traffic.runningKeys ∧ ∃ last ∈ attendance.traffic.lastPublished? key,
      now < last.lookup.now + last.lookup.ttl).card
  /-- The keys are counted for which no generation runs and the last that succeeded has
  expired. -/
  stale : stats.stale = (attendance.askedKeys.filter fun key ↦
    key ∉ attendance.traffic.runningKeys ∧ ∃ last ∈ attendance.traffic.lastPublished? key,
      last.lookup.now + last.lookup.ttl ≤ now).card

theorem Sound.size_eq_card {attendance : Attendance} (hsound : Sound attendance) :
    attendance.traffic.cache.slots.size = attendance.askedKeys.card := by
  have hnodup : attendance.traffic.cache.slots.keys.Nodup :=
    attendance.traffic.cache.slots.nodup_keys
  calc attendance.traffic.cache.slots.size
      = attendance.traffic.cache.slots.keys.length := (List.length_map _).symm
    _ = attendance.traffic.cache.slots.keys.toFinset.card :=
        (List.toFinset_card_of_nodup hnodup).symm
    _ = attendance.askedKeys.card := by rw [hsound.keys_toFinset]

theorem Sound.census {attendance : Attendance} (hsound : Sound attendance) (now : Duration) :
    attendance.Census now (attendance.traffic.cache.stats now) where
  total := hsound.size_eq_card
  partition := attendance.traffic.cache.sum_countIn now
  regenerating := hsound.regenerating now
  empty := by
    refine (hsound.countIn now .empty).trans ?_
    simp only [Traffic.conditionOf_empty_iff]
  valid := by
    refine (hsound.countIn now .valid).trans ?_
    simp only [Traffic.conditionOf_valid_iff]
  stale := by
    refine (hsound.countIn now .stale).trans ?_
    simp only [Traffic.conditionOf_stale_iff]

/-- Whatever the policy, in whatever order callers come, consult the cache, generate, fail, break
down and wait, and at whatever instant the cache is asked for its statistics; and whatever happens
next, no key loses its slot. -/
theorem census_stats (policy : Policy) (moves more : List Move) (now : Duration) :
    (run policy moves).Census now ((run policy moves).traffic.cache.stats now) ∧
      (run policy moves).traffic.cache.slots.keys ⊆
        (run policy (moves ++ more)).traffic.cache.slots.keys := by
  have hsound := sound_run policy moves
  have hmore : run policy (moves ++ more) = (run policy moves).afterAll more := List.foldl_append
  refine ⟨hsound.census now, ?_⟩
  rw [hmore]
  exact hsound.keys_subset more

/-- Tokens are kept under one key, a generation runs for a second one, the caller for a third one
has only just come, and tokens for a fourth one are not to be kept. -/
example :
    ((run .serveStale
      [.act (.consult "a" ⟨"site", .zero, .ofSeconds 5⟩), .act (.finish "a" (.ok ⟨[], [], .zero⟩)),
        .act (.consult "b" ⟨"api", .zero, .ofSeconds 5⟩), .come ⟨"form", .zero, .ofSeconds 5⟩,
        .act (.consult "c" ⟨"once", .zero, .zero⟩)]).traffic.cache.stats .zero) =
      ⟨3, 1, 0, 1, 1, "In-memory token cache (ServeStale)"⟩ := by
  decide

end Attendance

end TokenMint
