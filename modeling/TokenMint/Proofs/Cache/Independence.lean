import TokenMint.Proofs.Cache.Nesting
import TokenMint.Proofs.Cache.Waiting

/-!
# Keys are independent

Calls on many keys interleave in one cache, and they share its table of slots and the numbers of its
generations. What the calls on one key come to is nevertheless the same as if all other calls were
left out (`Traffic.AgreesOn`). Only the numbers of generations differ, because they count the
generations of all keys; two numbers stand for the same generation if one caller was told to run it
(`Traffic.SameGeneration`).

A step changes the call of its caller and the slot of its key, and no other call or slot
(`Traffic.after_frame`). So a step of a call on another key leaves the agreement alone
(`Traffic.AgreesOn.after_outside`), and a step of a call on the key does the same with and without
the others (`Traffic.AgreesOn.after_inside`), which carries the agreement through every run
(`Traffic.agreesOn_run`). `Traffic.keys_independent` adds that a call waits only for a generation of
its own key, and that calls without a lifetime never read or change a slot.
-/

set_option autoImplicit false
set_option relaxedAutoImplicit false

namespace TokenMint

/-! ### What the operations of a cache leave alone -/

namespace Cache

/-- A cache differs from another one in the slot of one key at most, and in verdicts. -/
structure TouchesOnly (key : String) (cache next : Cache) : Prop where
  policy : next.policy = cache.policy
  slot {other : String} (hother : other ≠ key) : next.slot other = cache.slot other

variable {key : String} {cache : Cache}

theorem touchesOnly_refl (key : String) (cache : Cache) : TouchesOnly key cache cache :=
  ⟨rfl, fun _ ↦ rfl⟩

theorem touchesOnly_start (cache : Cache) (key : String) (previous : Option Kept) :
    TouchesOnly key cache (cache.start key previous).2 :=
  ⟨rfl, fun hother ↦ (slot_start ..).trans (if_neg hother)⟩

theorem touchesOnly_conclude (cache : Cache) (key : String) (generation : Nat) (slot : Slot)
    (verdict : Verdict) : TouchesOnly key cache (cache.conclude key generation slot verdict) :=
  ⟨rfl, fun hother ↦ (slot_conclude ..).trans (if_neg hother)⟩

theorem touchesOnly_consult (cache : Cache) (lookup : Lookup) :
    TouchesOnly lookup.key cache (cache.consult lookup).2 := by
  rcases cache.consult_cases lookup with ⟨-, h⟩ | ⟨kept, -, -, h⟩ | ⟨kept, generation, -, -, h⟩ |
    ⟨previous, generation, -, h⟩ | ⟨previous, -, -, -, h⟩
  · exact h ▸ touchesOnly_refl _ _
  · exact h ▸ touchesOnly_refl _ _
  · exact h ▸ touchesOnly_refl _ _
  · exact h ▸ touchesOnly_refl _ _
  · exact h ▸ touchesOnly_start _ _ _

theorem touchesOnly_deliver (cache : Cache) (lookup : Lookup) (guard : Option Guard)
    (result : Except TokenError Minted) :
    TouchesOnly lookup.key cache (cache.deliver lookup guard result).2 := by
  cases guard with
  | none => cases result <;> exact touchesOnly_refl _ _
  | some guard => cases result <;> exact touchesOnly_conclude _ _ _ _ _

theorem touchesOnly_abandon (cache : Cache) (lookup : Lookup) (guard : Option Guard) :
    TouchesOnly lookup.key cache (cache.abandon lookup guard) := by
  cases guard with
  | none => exact touchesOnly_refl _ _
  | some guard => exact touchesOnly_conclude _ _ _ _ _

/-- Tokens without a lifetime are generated whatever the cache holds. -/
theorem consult_of_isZero (cache : Cache) {lookup : Lookup} (hzero : lookup.ttl.isZero = true) :
    cache.consult lookup = (.generate none, cache) := by
  rw [consult, if_pos hzero]

end Cache

namespace Traffic

variable {traffic part next nextPart : Traffic} {key : String}

/-! ### Who asks for what -/

/-- What a caller asks for that consults the cache. -/
def Step.lookup? : Step → Option Lookup
  | consult _ lookup => some lookup
  | _ => none

/-- What the caller of a step has asked for, or asks for with it. -/
def asksFor (traffic : Traffic) (step : Step) : Option Lookup :=
  ((traffic.calls.get? step.caller).map Call.lookup).or step.lookup?

/-- What a caller asks for when it first consults the cache. -/
def firstLookup? (steps : List Step) (caller : String) : Option Lookup :=
  steps.findSome? fun step ↦ if step.caller = caller then step.lookup? else none

/-- The steps of the calls on a key. -/
def stepsOn (key : String) (steps : List Step) : List Step :=
  steps.filter fun step ↦
    (firstLookup? steps step.caller).any fun lookup ↦ decide (lookup.key = key)

/-- A step changes nothing, or the call of its caller and at most the slot of the key that the
caller asks for. -/
theorem after_frame (traffic : Traffic) (step : Step) :
    traffic.after step = traffic ∨
    ∃ call, (traffic.after step).calls = (traffic.setCall step.caller call).calls ∧
      traffic.asksFor step = some call.lookup ∧
        Cache.TouchesOnly call.lookup.key traffic.cache (traffic.after step).cache := by
  rcases traffic.after_cases step with hafter | ⟨caller, lookup, rfl, hnone, hafter⟩ |
    ⟨caller, lookup, guard, result, rfl, hcall, hafter⟩ |
    ⟨caller, lookup, guard, rfl, hcall, hafter⟩ |
    ⟨caller, lookup, generation, rfl, hwaits, hafter⟩
  · exact .inl hafter
  · refine .inr ⟨⟨lookup, _, _⟩, by rw [hafter]; rfl, ?_, ?_⟩
    · simp [asksFor, Step.caller, Step.lookup?, hnone]
    · rw [hafter]
      exact Cache.touchesOnly_consult _ _
  · have hasks : traffic.asksFor (.finish caller result) = some lookup := by
      simp [asksFor, Step.caller, Step.lookup?, hcall]
    rw [hafter, finish]
    split
    · exact .inr ⟨⟨lookup, _, _⟩, rfl, hasks, Cache.touchesOnly_refl _ _⟩
    · exact .inr ⟨⟨lookup, _, _⟩, rfl, hasks, Cache.touchesOnly_deliver _ _ _ _⟩
  · have hasks : traffic.asksFor (.breakDown caller) = some lookup := by
      simp [asksFor, Step.caller, Step.lookup?, hcall]
    rw [hafter, breakDown]
    split
    · exact .inr ⟨⟨lookup, _, _⟩, rfl, hasks, Cache.touchesOnly_refl _ _⟩
    · exact .inr ⟨⟨lookup, _, _⟩, rfl, hasks, Cache.touchesOnly_abandon _ _ _⟩
  · have hasks : traffic.asksFor (.resume caller) = some lookup := by
      have hcall : traffic.calls.get? caller = some ⟨lookup, .wait generation, none⟩ := hwaits
      simp [asksFor, Step.caller, Step.lookup?, hcall]
    rw [hafter, resume]
    split
    · exact .inr ⟨⟨lookup, _, _⟩, rfl, hasks, Cache.touchesOnly_refl _ _⟩
    · split
      · exact .inr ⟨⟨lookup, _, _⟩, rfl, hasks, Cache.touchesOnly_refl _ _⟩
      · exact .inl rfl

/-- A call that has ended takes no more steps. -/
theorem after_of_ended {step : Step} {lookup : Lookup} {told : Instruction} {ending : Ending}
    (hcall : traffic.calls.get? step.caller = some ⟨lookup, told, some ending⟩) :
    traffic.after step = traffic := by
  cases step <;> simp only [Step.caller] at hcall <;> simp only [after, hcall]

/-- What a caller has asked for stays, and a caller that has not asked for anything asks for it with
the step. -/
theorem map_lookup_after (traffic : Traffic) (step : Step) (caller : String) :
    ((traffic.after step).calls.get? caller).map Call.lookup =
      ((traffic.calls.get? caller).map Call.lookup).or
        (if step.caller = caller then step.lookup? else none) := by
  by_cases hcaller : step.caller = caller
  · subst hcaller
    rw [if_pos rfl]
    show _ = traffic.asksFor step
    rcases traffic.after_frame step with hafter | ⟨call, hcalls, hasks, -⟩
    · rw [hafter, asksFor]
      cases hcall : traffic.calls.get? step.caller with
      | some call => rfl
      | none =>
        cases step with
        | consult caller lookup =>
          -- A new caller does consult the cache, so this step changes the traffic.
          have hnone : traffic.calls.get? caller = none := hcall
          have henter : (traffic.enter caller lookup).calls.get? caller = some ⟨lookup, _, _⟩ :=
            (calls_setCall ..).trans (if_pos rfl)
          rw [← after_consult lookup hnone, hafter, hnone] at henter
          cases henter
        | finish | breakDown | resume => rfl
    · rw [hcalls, calls_setCall, if_pos rfl, hasks]
      rfl
  · rw [calls_after_of_ne traffic (Ne.symm hcaller), if_neg hcaller, Option.or_none]

/-! ### The same up to the numbers of generations -/

/-- Two numbers stand for generations that one caller was told to run in two traffics, and its call
has ended alike. -/
def SameGeneration (traffic part : Traffic) (number other : Nat) : Prop :=
  ∃ caller lookup guard otherGuard ending, traffic.Claimed caller lookup guard ending ∧
    part.Claimed caller lookup otherGuard ending ∧
      guard.generation = number ∧ otherGuard.generation = other

/-- Two callers are told the same. -/
inductive SameTold (same : Nat → Nat → Prop) : Instruction → Instruction → Prop
  | served (served : Served) : SameTold same (.served served) (.served served)
  | wait {number other : Nat} (hsame : same number other) :
    SameTold same (.wait number) (.wait other)
  | alone : SameTold same (.generate none) (.generate none)
  | generate (number other : Nat) (previous : Option Kept) :
    SameTold same (.generate (some ⟨number, previous⟩)) (.generate (some ⟨other, previous⟩))

/-- Two slots keep the same, and the same generation runs or none. -/
inductive SameSlot (same : Nat → Nat → Prop) : Slot → Slot → Prop
  | idle (kept : Option Kept) : SameSlot same (.ofKept kept) (.ofKept kept)
  | regenerating (previous : Option Kept) {number other : Nat} (hsame : same number other) :
    SameSlot same (.regenerating previous number) (.regenerating previous other)

/-- The calls on a key come to the same in a traffic of these calls alone, and so does its slot. -/
structure AgreesOn (key : String) (traffic part : Traffic) : Prop where
  policy : part.cache.policy = traffic.cache.policy
  /-- Every call on the key is told the same and ends the same. -/
  call {caller : String} {lookup : Lookup} {told : Instruction} {ending : Option Ending}
    (hcall : traffic.calls.get? caller = some ⟨lookup, told, ending⟩) (hkey : lookup.key = key) :
    ∃ other, part.calls.get? caller = some ⟨lookup, other, ending⟩ ∧
      SameTold (SameGeneration traffic part) told other
  /-- There are no other calls. -/
  only {caller : String} {lookup : Lookup} {told : Instruction} {ending : Option Ending}
    (hcall : part.calls.get? caller = some ⟨lookup, told, ending⟩) :
    lookup.key = key ∧ ∃ other, traffic.calls.get? caller = some ⟨lookup, other, ending⟩
  slot : SameSlot (SameGeneration traffic part) (traffic.cache.slot key) (part.cache.slot key)

theorem SameTold.mono {same more : Nat → Nat → Prop}
    (hmore : ∀ number other, same number other → more number other) {told other : Instruction}
    (htold : SameTold same told other) : SameTold more told other := by
  cases htold with
  | served served => exact .served served
  | wait hsame => exact .wait (hmore _ _ hsame)
  | alone => exact .alone
  | generate number other previous => exact .generate number other previous

theorem SameTold.endingOf_eq {same : Nat → Nat → Prop} {told other : Instruction}
    (htold : SameTold same told other) : endingOf other = endingOf told := by
  cases htold <;> rfl

theorem SameSlot.mono {same more : Nat → Nat → Prop}
    (hmore : ∀ number other, same number other → more number other) {slot other : Slot}
    (hslot : SameSlot same slot other) : SameSlot more slot other := by
  cases hslot with
  | idle kept => exact .idle kept
  | regenerating previous hsame => exact .regenerating previous (hmore _ _ hsame)

theorem agreesOn_initial (policy : Policy) (key : String) :
    AgreesOn key (initial policy) (initial policy) where
  policy := rfl
  call hcall _ := by simp [initial] at hcall
  only hcall := by simp [initial] at hcall
  slot := .idle none

namespace AgreesOn

theorem get?_eq_none (hagrees : AgreesOn key traffic part) {caller : String}
    (hnone : traffic.calls.get? caller = none) : part.calls.get? caller = none := by
  cases hcall : part.calls.get? caller with
  | none => rfl
  | some call =>
    obtain ⟨-, other, hother⟩ := hagrees.only hcall
    rw [hnone] at hother
    cases hother

/-! ### Calls on other keys -/

/-- A step of a call on another key does not touch the agreement. -/
theorem after_outside (hagrees : AgreesOn key traffic part) {step : Step}
    (hstep : ∀ lookup, traffic.asksFor step = some lookup → lookup.key ≠ key) :
    AgreesOn key (traffic.after step) part := by
  rcases traffic.after_frame step with hafter | ⟨call, hcalls, hasks, htouches⟩
  · rw [hafter]
    exact hagrees
  have hkey := hstep call.lookup hasks
  have hget (other : String) : (traffic.after step).calls.get? other =
      if other = step.caller then some call else traffic.calls.get? other := by
    rw [hcalls, calls_setCall]
  -- The caller has no call in the part, for it would be one on the key.
  have hne {caller : String} {lookup : Lookup} {told : Instruction} {ending : Option Ending}
      (hcall : part.calls.get? caller = some ⟨lookup, told, ending⟩) : caller ≠ step.caller := by
    rintro rfl
    obtain ⟨hon, other, hother⟩ := hagrees.only hcall
    refine hstep lookup ?_ hon
    rw [asksFor, hother]
    rfl
  have hmono (number other : Nat) (hsame : SameGeneration traffic part number other) :
      SameGeneration (traffic.after step) part number other := by
    obtain ⟨caller, lookup, guard, otherGuard, ending, hclaimed, hother, hnumbers⟩ := hsame
    refine ⟨caller, lookup, guard, otherGuard, ending, ?_, hother, hnumbers⟩
    rw [Claimed, hget, if_neg (hne hother)]
    exact hclaimed
  refine ⟨hagrees.policy.trans htouches.policy.symm, ?_, ?_, ?_⟩
  · intro caller lookup told ending hcall hon
    rw [hget] at hcall
    split at hcall
    next =>
      obtain rfl := Option.some.inj hcall
      exact absurd hon hkey
    next =>
      obtain ⟨other, hother, htold⟩ := hagrees.call hcall hon
      exact ⟨other, hother, htold.mono hmono⟩
  · intro caller lookup told ending hcall
    obtain ⟨hon, other, hother⟩ := hagrees.only hcall
    refine ⟨hon, other, ?_⟩
    rw [hget, if_neg (hne hcall)]
    exact hother
  · rw [htouches.slot (Ne.symm hkey)]
    exact hagrees.slot.mono hmono

end AgreesOn

/-! ### Calls on the key -/

/-- The call of one caller is set alike in two traffics. What it was told before stays. -/
structure SetAlike (caller : String) (lookup : Lookup) (told other : Instruction)
    (ending : Option Ending) (traffic part next nextPart : Traffic) : Prop where
  calls : next.calls = (traffic.setCall caller ⟨lookup, told, ending⟩).calls
  partCalls : nextPart.calls = (part.setCall caller ⟨lookup, other, ending⟩).calls
  old (call : Call) : traffic.calls.get? caller = some call →
    call.lookup = lookup ∧ call.told = told
  partOld (call : Call) : part.calls.get? caller = some call →
    call.lookup = lookup ∧ call.told = other

namespace SetAlike

variable {caller : String} {lookup : Lookup} {told other : Instruction} {ending : Option Ending}

theorem get? (hset : SetAlike caller lookup told other ending traffic part next nextPart)
    (asker : String) :
    next.calls.get? asker =
      if asker = caller then some ⟨lookup, told, ending⟩ else traffic.calls.get? asker := by
  rw [hset.calls, calls_setCall]

theorem partGet? (hset : SetAlike caller lookup told other ending traffic part next nextPart)
    (asker : String) :
    nextPart.calls.get? asker =
      if asker = caller then some ⟨lookup, other, ending⟩ else part.calls.get? asker := by
  rw [hset.partCalls, calls_setCall]

/-- Numbers that stand for the same generation go on to do so. -/
theorem mono (hset : SetAlike caller lookup told other ending traffic part next nextPart)
    (number second : Nat) (hsame : SameGeneration traffic part number second) :
    SameGeneration next nextPart number second := by
  obtain ⟨winner, won, guard, otherGuard, wonEnding, hclaimed, hother, hnumbers⟩ := hsame
  by_cases hwinner : winner = caller
  · subst hwinner
    obtain ⟨rfl, rfl⟩ := hset.old _ hclaimed
    obtain ⟨-, rfl⟩ := hset.partOld _ hother
    exact ⟨winner, won, guard, otherGuard, ending, (hset.get? winner).trans (if_pos rfl),
      (hset.partGet? winner).trans (if_pos rfl), hnumbers⟩
  · exact ⟨winner, won, guard, otherGuard, wonEnding,
      ((hset.get? winner).trans (if_neg hwinner)).trans hclaimed,
      ((hset.partGet? winner).trans (if_neg hwinner)).trans hother, hnumbers⟩

/-- The agreement is kept if the caller was told the same and the slots of the key agree. -/
theorem agreesOn (hset : SetAlike caller lookup told other ending traffic part next nextPart)
    (hagrees : AgreesOn key traffic part) (hkey : lookup.key = key)
    (htold : SameTold (SameGeneration next nextPart) told other)
    (hpolicy : nextPart.cache.policy = next.cache.policy)
    (hslot : SameSlot (SameGeneration next nextPart) (next.cache.slot key)
      (nextPart.cache.slot key)) : AgreesOn key next nextPart := by
  refine ⟨hpolicy, ?_, ?_, hslot⟩
  · intro asker asked askerTold askerEnding hcall hon
    rw [hset.get?] at hcall
    rw [hset.partGet?]
    by_cases hasker : asker = caller
    · rw [if_pos hasker] at hcall ⊢
      cases hcall
      exact ⟨other, rfl, htold⟩
    · rw [if_neg hasker] at hcall ⊢
      obtain ⟨second, hsecond, hsame⟩ := hagrees.call hcall hon
      exact ⟨second, hsecond, hsame.mono hset.mono⟩
  · intro asker asked askerTold askerEnding hcall
    rw [hset.partGet?] at hcall
    rw [hset.get?]
    by_cases hasker : asker = caller
    · rw [if_pos hasker] at hcall ⊢
      cases hcall
      exact ⟨hkey, told, rfl⟩
    · rw [if_neg hasker] at hcall ⊢
      exact hagrees.only hcall

end SetAlike

namespace AgreesOn

/-- A look-up of the key leaves both caches as they are, and the caller is told the same, or it
starts a generation in both. -/
theorem consult (hagrees : AgreesOn key traffic part) {lookup : Lookup}
    (hkey : lookup.key = key) :
    (∃ told other, traffic.cache.consult lookup = (told, traffic.cache) ∧
      part.cache.consult lookup = (other, part.cache) ∧
        SameTold (SameGeneration traffic part) told other) ∨
    ∃ previous, traffic.cache.consult lookup = traffic.cache.start key previous ∧
      part.cache.consult lookup = part.cache.start key previous := by
  subst hkey
  have hpolicy := hagrees.policy
  have hsame := hagrees.slot
  unfold Cache.consult
  cases hzero : lookup.ttl.isZero with
  | true => exact .inl ⟨_, _, rfl, rfl, .alone⟩
  | false =>
    simp only [Bool.false_eq_true, if_false]
    generalize traffic.cache.slot lookup.key = slot at hsame ⊢
    generalize part.cache.slot lookup.key = partSlot at hsame ⊢
    cases hsame with
    | idle kept =>
      cases kept with
      | none => exact .inr ⟨none, rfl, rfl⟩
      | some kept =>
        simp only [Slot.ofKept]
        cases kept.isFresh lookup.now with
        | true => exact .inl ⟨_, _, rfl, rfl, .served _⟩
        | false => exact .inr ⟨some kept, rfl, rfl⟩
    | regenerating previous hnumbers =>
      refine .inl ⟨_, _, rfl, rfl, ?_⟩
      rw [hpolicy]
      cases traffic.cache.policy with
      | blockUntilPublished => exact .wait hnumbers
      | serveStale =>
        cases previous with
        | none => exact .wait hnumbers
        | some kept => exact .served _

/-- A new caller of the key enters both traffics alike. -/
theorem enter (hagrees : AgreesOn key traffic part) {caller : String} {lookup : Lookup}
    (hkey : lookup.key = key) (hnone : traffic.calls.get? caller = none) :
    AgreesOn key (traffic.enter caller lookup) (part.enter caller lookup) := by
  have hold (told : Instruction) (call : Call) (hcall : traffic.calls.get? caller = some call) :
      call.lookup = lookup ∧ call.told = told := by
    rw [hnone] at hcall
    cases hcall
  have hpartOld (told : Instruction) (call : Call) (hcall : part.calls.get? caller = some call) :
      call.lookup = lookup ∧ call.told = told := by
    rw [hagrees.get?_eq_none hnone] at hcall
    cases hcall
  rcases hagrees.consult hkey with ⟨told, other, hconsult, hpart, htold⟩ |
    ⟨previous, hconsult, hpart⟩
  · have hset : SetAlike caller lookup told other (endingOf told) traffic part
        (traffic.enter caller lookup) (part.enter caller lookup) := by
      refine ⟨?_, ?_, hold told, hpartOld other⟩
      · simp only [Traffic.enter, hconsult]
      · simp only [Traffic.enter, hpart, htold.endingOf_eq]
    refine hset.agreesOn hagrees hkey (htold.mono hset.mono) ?_ ?_
    · simpa only [Traffic.enter, hconsult, hpart] using hagrees.policy
    · simpa only [Traffic.enter, hconsult, hpart] using hagrees.slot.mono hset.mono
  · have hset : SetAlike caller lookup
        (.generate (some ⟨traffic.cache.verdicts.length, previous⟩))
        (.generate (some ⟨part.cache.verdicts.length, previous⟩)) none traffic part
        (traffic.enter caller lookup) (part.enter caller lookup) := by
      refine ⟨?_, ?_, hold _, hpartOld _⟩
      · simp only [Traffic.enter, hconsult, Cache.start, endingOf]
      · simp only [Traffic.enter, hpart, Cache.start, endingOf]
    have hcache : (traffic.enter caller lookup).cache = (traffic.cache.start key previous).2 := by
      simp only [Traffic.enter, hconsult]
    have hpartCache : (part.enter caller lookup).cache = (part.cache.start key previous).2 := by
      simp only [Traffic.enter, hpart]
    refine hset.agreesOn hagrees hkey (.generate ..) ?_ ?_
    · rw [hcache, hpartCache]
      exact hagrees.policy
    · rw [hcache, hpartCache, Cache.slot_start, Cache.slot_start, if_pos rfl, if_pos rfl]
      refine .regenerating previous
        ⟨caller, lookup, ⟨_, previous⟩, ⟨_, previous⟩, none, ?_, ?_, rfl, rfl⟩
      · exact (hset.get? caller).trans (if_pos rfl)
      · exact (hset.partGet? caller).trans (if_pos rfl)

variable {caller : String} {lookup : Lookup} {told other : Instruction}

/-- The call of a caller of the key is under way in both traffics, and ends in both alike. -/
theorem setAlike (hcall : traffic.calls.get? caller = some ⟨lookup, told, none⟩)
    (hother : part.calls.get? caller = some ⟨lookup, other, none⟩) {ending : Option Ending}
    (hcalls : next.calls = (traffic.setCall caller ⟨lookup, told, ending⟩).calls)
    (hpartCalls : nextPart.calls = (part.setCall caller ⟨lookup, other, ending⟩).calls) :
    SetAlike caller lookup told other ending traffic part next nextPart := by
  refine ⟨hcalls, hpartCalls, fun call hsame ↦ ?_, fun call hsame ↦ ?_⟩
  · rw [hcall] at hsame
    cases hsame
    exact ⟨rfl, rfl⟩
  · rw [hother] at hsame
    cases hsame
    exact ⟨rfl, rfl⟩

/-- A call ends that ran no generation. -/
theorem done (hagrees : AgreesOn key traffic part) (hkey : lookup.key = key)
    (hcall : traffic.calls.get? caller = some ⟨lookup, told, none⟩)
    (hother : part.calls.get? caller = some ⟨lookup, other, none⟩)
    (htold : SameTold (SameGeneration traffic part) told other) {ending : Option Ending}
    (hcalls : next.calls = (traffic.setCall caller ⟨lookup, told, ending⟩).calls)
    (hpartCalls : nextPart.calls = (part.setCall caller ⟨lookup, other, ending⟩).calls)
    (hcache : next.cache = traffic.cache) (hpartCache : nextPart.cache = part.cache) :
    AgreesOn key next nextPart := by
  have hset := setAlike hcall hother hcalls hpartCalls
  refine hset.agreesOn hagrees hkey (htold.mono hset.mono) ?_ ?_
  · rw [hcache, hpartCache, hagrees.policy]
  · rw [hcache, hpartCache]
    exact hagrees.slot.mono hset.mono

/-- A generation ends. -/
theorem concluded (hagrees : AgreesOn key traffic part) (hkey : lookup.key = key)
    {number second : Nat} {previous : Option Kept}
    (hcall : traffic.calls.get? caller =
      some ⟨lookup, .generate (some ⟨number, previous⟩), none⟩)
    (hother : part.calls.get? caller = some ⟨lookup, .generate (some ⟨second, previous⟩), none⟩)
    {ending : Option Ending} (kept : Option Kept) {verdict : Verdict}
    (hcalls : next.calls =
      (traffic.setCall caller ⟨lookup, .generate (some ⟨number, previous⟩), ending⟩).calls)
    (hpartCalls : nextPart.calls =
      (part.setCall caller ⟨lookup, .generate (some ⟨second, previous⟩), ending⟩).calls)
    (hcache : next.cache = traffic.cache.conclude lookup.key number (.ofKept kept) verdict)
    (hpartCache : nextPart.cache =
      part.cache.conclude lookup.key second (.ofKept kept) verdict) :
    AgreesOn key next nextPart := by
  have hset := setAlike hcall hother hcalls hpartCalls
  refine hset.agreesOn hagrees hkey (.generate ..) ?_ ?_
  · rw [hcache, hpartCache]
    exact hagrees.policy
  · rw [hcache, hpartCache, Cache.slot_conclude, Cache.slot_conclude, if_pos hkey.symm,
      if_pos hkey.symm]
    exact .idle kept

/-- A caller that generates has a result. -/
theorem finish (hagrees : AgreesOn key traffic part) (hown : Ownership traffic)
    (hpartOwn : Ownership part) (hkey : lookup.key = key) {guard otherGuard : Option Guard}
    (hcall : traffic.calls.get? caller = some ⟨lookup, .generate guard, none⟩)
    (hother : part.calls.get? caller = some ⟨lookup, .generate otherGuard, none⟩)
    (htold : SameTold (SameGeneration traffic part) (.generate guard) (.generate otherGuard))
    (result : Except TokenError Minted) :
    AgreesOn key (traffic.finish caller lookup guard result)
      (part.finish caller lookup otherGuard result) := by
  unfold Traffic.finish
  rw [hown.not_isDelivered hcall, hpartOwn.not_isDelivered hother]
  simp only [Bool.false_eq_true, if_false]
  cases htold with
  | alone =>
    cases result <;> exact hagrees.done hkey hcall hother .alone rfl rfl rfl rfl
  | generate number second previous =>
    cases result with
    | ok minted => exact hagrees.concluded hkey hcall hother (some _) rfl rfl rfl rfl
    | error error => exact hagrees.concluded hkey hcall hother previous rfl rfl rfl rfl

/-- A caller that generates breaks down. -/
theorem breakDown (hagrees : AgreesOn key traffic part) (hown : Ownership traffic)
    (hpartOwn : Ownership part) (hkey : lookup.key = key) {guard otherGuard : Option Guard}
    (hcall : traffic.calls.get? caller = some ⟨lookup, .generate guard, none⟩)
    (hother : part.calls.get? caller = some ⟨lookup, .generate otherGuard, none⟩)
    (htold : SameTold (SameGeneration traffic part) (.generate guard) (.generate otherGuard)) :
    AgreesOn key (traffic.breakDown caller lookup guard)
      (part.breakDown caller lookup otherGuard) := by
  unfold Traffic.breakDown
  rw [hown.not_isDelivered hcall, hpartOwn.not_isDelivered hother]
  simp only [Bool.false_eq_true, if_false]
  cases htold with
  | alone => exact hagrees.done hkey hcall hother .alone rfl rfl rfl rfl
  | generate number second previous =>
    exact hagrees.concluded hkey hcall hother previous rfl rfl rfl rfl

/-- A caller that waits looks for the verdict. -/
theorem resume (hagrees : AgreesOn key traffic part) (hown : Ownership traffic)
    (hpartOwn : Ownership part) (hkey : lookup.key = key) {number second : Nat}
    (hcall : traffic.calls.get? caller = some ⟨lookup, .wait number, none⟩)
    (hother : part.calls.get? caller = some ⟨lookup, .wait second, none⟩)
    (hsame : SameGeneration traffic part number second) :
    AgreesOn key (traffic.resume caller lookup number) (part.resume caller lookup second) := by
  -- Both wait for the call of one caller, which has ended in both alike.
  obtain ⟨winner, won, guard, otherGuard, ending, hclaimed, hwon, rfl, rfl⟩ := id hsame
  rw [resume_eq hown hclaimed, resume_eq hpartOwn hwon]
  cases ending with
  | none => exact hagrees
  | some ending => exact hagrees.done hkey hcall hother (.wait hsame) rfl rfl rfl rfl

/-- A step of a call on the key does the same in both traffics. -/
theorem after_inside (hagrees : AgreesOn key traffic part) (hown : Ownership traffic)
    (hpartOwn : Ownership part) {step : Step}
    (hstep : ∀ lookup, traffic.asksFor step = some lookup → lookup.key = key) :
    AgreesOn key (traffic.after step) (part.after step) := by
  cases hget : traffic.calls.get? step.caller with
  | none =>
    have hpart := hagrees.get?_eq_none hget
    cases step with
    | consult caller lookup =>
      have hkey : lookup.key = key := hstep lookup (by rw [asksFor, hget]; rfl)
      simp only [Step.caller] at hget hpart
      rw [after_consult lookup hget, after_consult lookup hpart]
      exact hagrees.enter hkey hget
    | finish caller result | breakDown caller | resume caller =>
      simp only [Step.caller] at hget hpart
      simpa only [after, hget, hpart] using hagrees
  | some call =>
    obtain ⟨lookup, told, ending⟩ := call
    have hkey : lookup.key = key := hstep lookup (by rw [asksFor, hget]; rfl)
    obtain ⟨other, hpart, htold⟩ := hagrees.call hget hkey
    cases ending with
    | some ending =>
      rw [after_of_ended hget, after_of_ended hpart]
      exact hagrees
    | none =>
      cases step with
      | consult caller asked =>
        simp only [Step.caller] at hget hpart
        simpa only [after, hget, hpart] using hagrees
      | finish caller result =>
        simp only [Step.caller] at hget hpart
        simp only [after, hget, hpart]
        cases htold with
        | served | wait => exact hagrees
        | alone => exact hagrees.finish hown hpartOwn hkey hget hpart .alone result
        | generate => exact hagrees.finish hown hpartOwn hkey hget hpart (.generate ..) result
      | breakDown caller =>
        simp only [Step.caller] at hget hpart
        simp only [after, hget, hpart]
        cases htold with
        | served | wait => exact hagrees
        | alone => exact hagrees.breakDown hown hpartOwn hkey hget hpart .alone
        | generate => exact hagrees.breakDown hown hpartOwn hkey hget hpart (.generate ..)
      | resume caller =>
        simp only [Step.caller] at hget hpart
        simp only [after, hget, hpart]
        cases htold with
        | served | alone | generate => exact hagrees
        | wait hsame => exact hagrees.resume hown hpartOwn hkey hget hpart hsame

/-! ### Runs -/

/-- The agreement is kept by several steps, if those of the calls on the key are taken in the part,
where `asked` says what each caller has asked for or will ask for. -/
theorem afterAll (hagrees : AgreesOn key traffic part) (hown : Ownership traffic)
    (hpartOwn : Ownership part) (steps : List Step) (asked : String → Option Lookup)
    (hasked : ∀ caller, asked caller =
      ((traffic.calls.get? caller).map Call.lookup).or (firstLookup? steps caller)) :
    AgreesOn key (traffic.afterAll steps) (part.afterAll (steps.filter fun step ↦
      (asked step.caller).any fun lookup ↦ decide (lookup.key = key))) := by
  induction steps generalizing traffic part with
  | nil => exact hagrees
  | cons step rest ih =>
    have hfirst (caller : String) : firstLookup? (step :: rest) caller =
        (if step.caller = caller then step.lookup? else none).or (firstLookup? rest caller) := by
      rw [firstLookup?, List.findSome?_cons]
      cases (if step.caller = caller then step.lookup? else none) <;> rfl
    have hlater (caller : String) : asked caller =
        (((traffic.after step).calls.get? caller).map Call.lookup).or
          (firstLookup? rest caller) := by
      rw [hasked, hfirst, map_lookup_after, Option.or_assoc]
    have hnow {lookup : Lookup} (hasks : traffic.asksFor step = some lookup) :
        asked step.caller = some lookup := by
      rw [hasked, hfirst, if_pos rfl, ← Option.or_assoc]
      show (traffic.asksFor step).or _ = _
      rw [hasks]
      rfl
    have hownNext := hown.change (change_after hown step)
    rw [afterAll_cons, List.filter_cons]
    by_cases hon : (asked step.caller).any (fun lookup ↦ decide (lookup.key = key)) = true
    · rw [if_pos hon, afterAll_cons]
      refine ih (hagrees.after_inside hown hpartOwn fun lookup hasks ↦ ?_) hownNext
        (hpartOwn.change (change_after hpartOwn step)) hlater
      simpa [hnow hasks] using hon
    · rw [if_neg hon]
      refine ih (hagrees.after_outside fun lookup hasks ↦ ?_) hownNext hpartOwn hlater
      simpa [hnow hasks] using hon

end AgreesOn

/-- In every run the calls on a key come to the same as in the run of these calls alone. -/
theorem agreesOn_run (policy : Policy) (steps : List Step) (key : String) :
    AgreesOn key (run policy steps) (run policy (stepsOn key steps)) := by
  have hown := ownership_initial policy
  exact (agreesOn_initial policy key).afterAll hown hown steps (firstLookup? steps) fun _ ↦ rfl

/-! ### Those who wait, and those who do not take part -/

/-- Callers wait for generations of their own keys alone. -/
structure WaitsForOwnKey (traffic : Traffic) : Prop where
  /-- A caller is told to wait for a generation that runs for its key. -/
  told {lookup : Lookup} {generation : Nat}
    (hwait : (traffic.cache.consult lookup).1 = .wait generation) :
    ∃ runner other guard, traffic.Runs runner other guard ∧ guard.generation = generation ∧
      other.key = lookup.key
  /-- A caller that waits is answered when it looks, unless this generation still runs. -/
  waits {caller : String} {lookup : Lookup} {generation : Nat}
    (hwaits : traffic.Waits caller lookup generation) :
    (∃ runner other guard, traffic.Runs runner other guard ∧ guard.generation = generation ∧
      other.key = lookup.key) ∨
    ∃ answer, (traffic.after (.resume caller)).calls.get? caller =
      some ⟨lookup, .wait generation, some (.answered answer)⟩

theorem Ownership.waitsForOwnKey (hown : Ownership traffic) : WaitsForOwnKey traffic := by
  constructor
  · intro lookup generation hwait
    obtain ⟨previous, hslot⟩ := Cache.slot_of_wait hwait
    obtain ⟨runner, other, hruns, hkey⟩ := hown.runs_of_slot hslot
    exact ⟨runner, other, _, hruns, rfl, hkey⟩
  · intro caller lookup generation hwaits
    obtain ⟨winner, won, guard, ending, hclaimed, rfl, hkey⟩ := hown.isClaimed_of_waits hwaits
    cases ending with
    | none => exact .inl ⟨winner, won, guard, hclaimed, rfl, hkey⟩
    | some ending => exact .inr ⟨_, get?_after_resume hown hwaits hclaimed⟩

/-- A caller of tokens without a lifetime was told to generate for itself alone. -/
def GeneratesAlone (traffic : Traffic) : Prop :=
  ∀ caller lookup told ending, traffic.calls.get? caller = some ⟨lookup, told, ending⟩ →
    lookup.ttl.isZero = true → told = .generate none

theorem GeneratesAlone.setCall (halone : GeneratesAlone traffic) {caller : String} {call : Call}
    (hcalls : next.calls = (traffic.setCall caller call).calls)
    (htold : call.lookup.ttl.isZero = true → call.told = .generate none) :
    GeneratesAlone next := by
  intro other lookup told ending hcall hzero
  rw [hcalls, calls_setCall] at hcall
  split at hcall
  next =>
    obtain rfl := Option.some.inj hcall
    exact htold hzero
  next => exact halone _ _ _ _ hcall hzero

theorem GeneratesAlone.change (halone : GeneratesAlone traffic) {step : Step}
    (hchange : Change traffic step next) : GeneratesAlone next := by
  cases hchange with
  | idle => exact halone
  | told _ hconsult _ =>
    refine halone.setCall rfl fun hzero ↦ ?_
    exact congrArg Prod.fst (hconsult.symm.trans (Cache.consult_of_isZero _ hzero))
  | started _ _ _ hlifetime =>
    exact halone.setCall rfl fun hzero ↦ absurd (hlifetime.symm.trans hzero) Bool.false_ne_true
  | done hcall _ _ => exact halone.setCall rfl (halone _ _ _ _ hcall)
  | succeeded hruns => exact halone.setCall rfl (halone _ _ _ _ hruns)
  | failed failure hruns => exact halone.setCall rfl (halone _ _ _ _ hruns)

theorem generatesAlone_run (policy : Policy) (steps : List Step) :
    GeneratesAlone (run policy steps) := by
  refine (ownership_initial policy).afterAll_induction
    (fun _ halone hchange ↦ GeneratesAlone.change halone hchange) ?_ steps
  intro caller lookup told ending hcall
  simp [initial] at hcall

/-- Calls without a lifetime play no part in keeping tokens. -/
structure BypassesSlots (traffic : Traffic) : Prop where
  /-- A caller is told to generate, whatever the slots of the cache hold. -/
  consult (cache : Cache) {lookup : Lookup} (hzero : lookup.ttl.isZero = true) :
    cache.consult lookup = (.generate none, cache)
  told {caller : String} {lookup : Lookup} {told : Instruction} {ending : Option Ending}
    (hcall : traffic.calls.get? caller = some ⟨lookup, told, ending⟩)
    (hzero : lookup.ttl.isZero = true) : told = .generate none
  /-- It gets what it has generated. -/
  finish {caller : String} {lookup : Lookup}
    (hcall : traffic.calls.get? caller = some ⟨lookup, .generate none, none⟩)
    (result : Except TokenError Minted) :
    (traffic.after (.finish caller result)).calls.get? caller =
      some ⟨lookup, .generate none,
        some (.answered (result.map fun minted ↦ ⟨minted, .bypassed⟩))⟩
  /-- No step of its call changes the cache. -/
  cache {step : Step} {lookup : Lookup} (hasks : traffic.asksFor step = some lookup)
    (hzero : lookup.ttl.isZero = true) : (traffic.after step).cache = traffic.cache

theorem GeneratesAlone.cache_after (halone : GeneratesAlone traffic) {step : Step}
    {lookup : Lookup} (hasks : traffic.asksFor step = some lookup)
    (hzero : lookup.ttl.isZero = true) : (traffic.after step).cache = traffic.cache := by
  rcases traffic.after_cases step with hafter | ⟨caller, asked, rfl, hnone, hafter⟩ |
    ⟨caller, asked, guard, result, rfl, hcall, hafter⟩ |
    ⟨caller, asked, guard, rfl, hcall, hafter⟩ |
    ⟨caller, asked, generation, rfl, hwaits, hafter⟩
  · rw [hafter]
  · obtain rfl : asked = lookup := by
      simpa [asksFor, Step.caller, Step.lookup?, hnone] using hasks
    rw [hafter, enter, Cache.consult_of_isZero _ hzero]
  · obtain rfl : asked = lookup := by
      simpa [asksFor, Step.caller, Step.lookup?, hcall] using hasks
    obtain rfl : guard = none := Instruction.generate.inj (halone _ _ _ _ hcall hzero)
    rw [hafter]
    cases result <;> rfl
  · obtain rfl : asked = lookup := by
      simpa [asksFor, Step.caller, Step.lookup?, hcall] using hasks
    obtain rfl : guard = none := Instruction.generate.inj (halone _ _ _ _ hcall hzero)
    rw [hafter]
    rfl
  · rw [hafter, resume]
    split
    · rfl
    · split <;> rfl

theorem GeneratesAlone.bypassesSlots (halone : GeneratesAlone traffic) :
    BypassesSlots traffic where
  consult cache _ hzero := Cache.consult_of_isZero cache hzero
  told hcall hzero := halone _ _ _ _ hcall hzero
  finish {caller lookup} hcall result := by
    have hset : (traffic.after (.finish caller result)).calls =
        (traffic.setCall caller ⟨lookup, .generate none,
          some (.answered (result.map fun minted ↦ ⟨minted, .bypassed⟩))⟩).calls := by
      simp only [after, hcall]
      cases result <;> rfl
    rw [hset, calls_setCall, if_pos rfl]
  cache hasks hzero := halone.cache_after hasks hzero

/-- Whatever the policy, and in whatever order calls on many keys consult the cache, generate, fail,
break down and wait: the calls on each key are told the same, end the same and leave the same slot
as in the run of these calls alone; a call waits only while a generation of its own key runs; and
calls without a lifetime neither read a slot nor change one. -/
theorem keys_independent (policy : Policy) (steps : List Step) :
    (∀ key, AgreesOn key (run policy steps) (run policy (stepsOn key steps))) ∧
      WaitsForOwnKey (run policy steps) ∧ BypassesSlots (run policy steps) :=
  ⟨agreesOn_run policy steps, (ownership_run policy steps).waitsForOwnKey,
    (generatesAlone_run policy steps).bypassesSlots⟩

/-- While tokens for one key are generated, a caller on another key waits, those it waits for break
down, and it learns of it. It learns the same when the generation of the first key never started,
although the number it waits for is then another one. -/
theorem keys_independent_while_generating :
    let steps : List Step :=
      [.consult "a" ⟨"site", .zero, .ofSeconds 5⟩, .consult "b" ⟨"shop", .zero, .ofSeconds 5⟩,
        .consult "c" ⟨"shop", .zero, .ofSeconds 5⟩, .consult "d" ⟨"site", .zero, .zero⟩,
        .breakDown "b", .resume "c", .finish "d" (.ok ⟨["once"], [], .zero⟩)]
    let ending : Ending :=
      .answered (.error (.regenerationFailed "token generator panicked"))
    (run .blockUntilPublished steps).calls.get? "c" =
        some ⟨⟨"shop", .zero, .ofSeconds 5⟩, .wait 1, some ending⟩ ∧
      (run .blockUntilPublished (stepsOn "shop" steps)).calls.get? "c" =
        some ⟨⟨"shop", .zero, .ofSeconds 5⟩, .wait 0, some ending⟩ ∧
      ∃ told, (run .blockUntilPublished (stepsOn "shop" steps)).calls.get? "c" =
          some ⟨⟨"shop", .zero, .ofSeconds 5⟩, told, some ending⟩ ∧
        SameTold (SameGeneration (run .blockUntilPublished steps)
          (run .blockUntilPublished (stepsOn "shop" steps))) (.wait 1) told := by
  intro steps ending
  have hcall : (run .blockUntilPublished steps).calls.get? "c" =
      some ⟨⟨"shop", .zero, .ofSeconds 5⟩, .wait 1, some ending⟩ := rfl
  have hindependent := keys_independent .blockUntilPublished steps
  exact ⟨hcall, rfl, (hindependent.1 "shop").call hcall rfl⟩

end Traffic

end TokenMint
