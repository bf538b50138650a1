import TokenMint.Cache.Overlap
import TokenMint.Proofs.Cache.Change

/-!
# Nested callers take the steps of a traffic

`Caller.run` runs callers inside one another: whoever comes along with a caller is started while that
caller generates. `exists_steps_of_run` says that this is one of the orders that a traffic allows
for. There are steps after which the cache of a traffic is the cache after the nested run, and every
call stands as it is reported. What holds after all steps of a traffic therefore holds after nested
runs. In particular nobody is left waiting (`not_waiting_of_run`). Callers are named by numbers, in
the order in which they are started, so that those who come along with a caller have the numbers
that follow its own.
-/

set_option autoImplicit false
set_option relaxedAutoImplicit false

namespace TokenMint

namespace Report

/-- Where those stand who asked for tokens, and whether they had to generate, in the order in which
they were started. -/
def standings : Report → List (Standing × Bool)
  | .stats _ => []
  | .tokens _ standing generating during => (standing, generating) :: standingsAll during
where
  /-- Where those stand whom several reports are about. -/
  standingsAll : List Report → List (Standing × Bool)
    | [] => []
    | report :: rest => standings report ++ standingsAll rest

theorem standings_mark (cache : Cache) (report : Report) :
    standings (report.mark cache) = standings report := by
  cases report <;> rfl

mutual

theorem standings_settle (cache : Cache) : (report : Report) →
    standings (report.settle cache) = (standings report).map (Prod.map (Standing.settle cache) id)
  | .stats _ => rfl
  | .tokens _ _ _ during => congrArg (List.cons _) (standings_settleAll cache during)

theorem standings_settleAll (cache : Cache) : (reports : List Report) →
    standings.standingsAll (settle.settleAll cache reports) =
      (standings.standingsAll reports).map (Prod.map (Standing.settle cache) id)
  | [] => rfl
  | report :: rest => by
    rw [settle.settleAll, standings.standingsAll, standings.standingsAll, List.map_append,
      standings_settle cache report, standings_settleAll cache rest]

end

theorem settleAll_eq_map (cache : Cache) (reports : List Report) :
    settle.settleAll cache reports = reports.map (settle cache) := by
  induction reports with
  | nil => rfl
  | cons report rest ih => rw [settle.settleAll, ih, List.map_cons]

end Report

theorem Caller.standings_run (cache : Cache) (callers : List Caller) :
    Report.standings.standingsAll (Caller.run cache callers).1 =
      (Report.standings.standingsAll (Caller.startAll cache callers).1).map
        (Prod.map (Standing.settle (Caller.startAll cache callers).2) id) := by
  rw [← Report.standings_settleAll, Report.settleAll_eq_map]
  rfl

namespace Traffic

variable {traffic : Traffic}

/-- The caller that takes a step. -/
def Step.caller : Step → String
  | consult caller _ => caller
  | finish caller _ => caller
  | breakDown caller => caller
  | resume caller => caller

/-- A step changes the call of no other caller. -/
theorem calls_after_of_ne (traffic : Traffic) {step : Step} {other : String}
    (hother : other ≠ step.caller) :
    (traffic.after step).calls.get? other = traffic.calls.get? other := by
  rcases traffic.after_cases step with hafter | ⟨caller, lookup, rfl, -, hafter⟩ |
    ⟨caller, lookup, guard, result, rfl, -, hafter⟩ | ⟨caller, lookup, guard, rfl, -, hafter⟩ |
    ⟨caller, lookup, generation, rfl, -, hafter⟩
  · rw [hafter]
  · rw [hafter]
    exact (calls_setCall ..).trans (if_neg hother)
  · rw [hafter, finish]
    split
    · exact (calls_setCall ..).trans (if_neg hother)
    · exact (calls_setCall ..).trans (if_neg hother)
  · rw [hafter, breakDown]
    split
    · exact (calls_setCall ..).trans (if_neg hother)
    · exact (calls_setCall ..).trans (if_neg hother)
  · rw [hafter, resume]
    split
    · exact (calls_setCall ..).trans (if_neg hother)
    · split
      · exact (calls_setCall ..).trans (if_neg hother)
      · rfl

theorem calls_afterAll_of_ne (traffic : Traffic) {steps : List Step} {other : String}
    (hother : ∀ step ∈ steps, other ≠ step.caller) :
    (traffic.afterAll steps).calls.get? other = traffic.calls.get? other := by
  induction steps generalizing traffic with
  | nil => rfl
  | cons step steps ih =>
    obtain ⟨hstep, hsteps⟩ := List.forall_mem_cons.1 hother
    rw [afterAll_cons, ih _ hsteps, calls_after_of_ne traffic hstep]

/-! ### Callers named by numbers -/

/-- The name of a numbered caller. -/
def numbered (number : Nat) : String :=
  String.ofList (List.replicate number 'i')

theorem numbered_inj {first second : Nat} (h : numbered first = numbered second) :
    first = second := by
  have hletters := congrArg String.toList h
  rw [numbered, numbered, String.toList_ofList, String.toList_ofList] at hletters
  simpa using congrArg List.length hletters

/-- All steps are taken by callers with numbers from `low` up to `high`. -/
def Within (low high : Nat) (steps : List Step) : Prop :=
  ∀ step ∈ steps, ∃ number, low ≤ number ∧ number < high ∧ step.caller = numbered number

theorem Within.mono {low high low' high' : Nat} {steps : List Step}
    (hwithin : Within low high steps) (hlow : low' ≤ low) (hhigh : high ≤ high') :
    Within low' high' steps := by
  intro step hstep
  obtain ⟨number, hle, hlt, hcaller⟩ := hwithin step hstep
  exact ⟨number, Nat.le_trans hlow hle, Nat.lt_of_lt_of_le hlt hhigh, hcaller⟩

theorem Within.append {low high : Nat} {first second : List Step}
    (hfirst : Within low high first) (hsecond : Within low high second) :
    Within low high (first ++ second) := by
  intro step hstep
  rcases List.mem_append.1 hstep with hstep | hstep
  · exact hfirst step hstep
  · exact hsecond step hstep

theorem within_singleton {number : Nat} {step : Step} (hstep : step.caller = numbered number) :
    Within number (number + 1) [step] := by
  intro other hother
  rw [List.mem_singleton.1 hother]
  exact ⟨number, Nat.le_refl number, Nat.lt_succ_self number, hstep⟩

/-- The calls of callers with other numbers stay as they are. -/
theorem calls_afterAll_of_within {low high number : Nat} {steps : List Step}
    (hwithin : Within low high steps) (hout : number < low ∨ high ≤ number) :
    (traffic.afterAll steps).calls.get? (numbered number) =
      traffic.calls.get? (numbered number) := by
  refine calls_afterAll_of_ne traffic fun step hstep h ↦ ?_
  obtain ⟨other, hle, hlt, hcaller⟩ := hwithin step hstep
  have hnumber := numbered_inj (h.trans hcaller)
  omega

/-! ### Calls that stand as reported -/

/-- Where a call stands, and whether its caller had to generate, unless it is generating. -/
def Call.standing? (call : Call) : Option (Standing × Bool) :=
  match call.told, call.ending with
  | .generate _, some (.answered answer) => some (.answered answer, true)
  | .generate _, some .brokenDown => some (.brokenDown, true)
  | .generate _, none => none
  | .wait generation, none => some (.waiting generation, false)
  | _, some (.answered answer) => some (.answered answer, false)
  | _, _ => none

/-- The callers from a number on have calls that stand as given. -/
def Shows (traffic : Traffic) (number : Nat) : List (Standing × Bool) → Prop
  | [] => True
  | standing :: rest =>
    (traffic.calls.get? (numbered number)).bind Call.standing? = some standing ∧
      Shows traffic (number + 1) rest

theorem shows_append {number : Nat} {first second : List (Standing × Bool)} :
    Shows traffic number (first ++ second) ↔
      Shows traffic number first ∧ Shows traffic (number + first.length) second := by
  induction first generalizing number with
  | nil => simp [Shows]
  | cons standing rest ih =>
    have hnumber : number + 1 + rest.length = number + (standing :: rest).length := by
      rw [List.length_cons]
      omega
    rw [List.cons_append, Shows, Shows, ih, hnumber, and_assoc]

/-- Callers with other numbers may take steps. -/
theorem Shows.afterAll {number low high : Nat} {standings : List (Standing × Bool)}
    {steps : List Step} (hshows : Shows traffic number standings) (hwithin : Within low high steps)
    (hout : number + standings.length ≤ low ∨ high ≤ number) :
    Shows (traffic.afterAll steps) number standings := by
  induction standings generalizing number with
  | nil => trivial
  | cons standing rest ih =>
    obtain ⟨hfirst, hrest⟩ := hshows
    rw [List.length_cons] at hout
    refine ⟨?_, ih hrest (by omega)⟩
    rw [calls_afterAll_of_within hwithin (by omega), hfirst]

theorem Shows.get? {number : Nat} {standings : List (Standing × Bool)}
    (hshows : Shows traffic number standings) (index : Nat) (hindex : index < standings.length) :
    (traffic.calls.get? (numbered (number + index))).bind Call.standing? = standings[index]? := by
  induction standings generalizing number index with
  | nil => cases hindex
  | cons standing rest ih =>
    obtain ⟨hfirst, hrest⟩ := hshows
    cases index with
    | zero => exact hfirst
    | succ index =>
      rw [List.getElem?_cons_succ, ← ih hrest index (Nat.lt_of_succ_lt_succ hindex),
        show number + 1 + index = number + (index + 1) by omega]

theorem Shows.exists_call {number : Nat} {standings : List (Standing × Bool)}
    (hshows : Shows traffic number standings) {standing : Standing × Bool}
    (hstanding : standing ∈ standings) :
    ∃ caller call, traffic.calls.get? caller = some call ∧ call.standing? = some standing := by
  induction standings generalizing number with
  | nil => cases hstanding
  | cons first rest ih =>
    obtain ⟨hfirst, hrest⟩ := hshows
    rcases List.mem_cons.1 hstanding with rfl | hstanding
    · exact ⟨numbered number, Option.bind_eq_some_iff.1 hfirst⟩
    · exact ih hrest hstanding

/-- Steps of callers from a number on lead to a cache and to calls that stand as given. -/
structure Leads (traffic : Traffic) (number : Nat) (steps : List Step) (cache : Cache)
    (standings : List (Standing × Bool)) : Prop where
  within : Within number (number + standings.length) steps
  cache_eq : (traffic.afterAll steps).cache = cache
  shows : Shows (traffic.afterAll steps) number standings

theorem Leads.append {number : Nat} {first second : List Step} {middle cache : Cache}
    {standings others : List (Standing × Bool)}
    (hfirst : Leads traffic number first middle standings)
    (hsecond : Leads (traffic.afterAll first) (number + standings.length) second cache others) :
    Leads traffic number (first ++ second) cache (standings ++ others) := by
  have hlength : number + standings.length + others.length =
      number + (standings ++ others).length := by
    rw [List.length_append]
    omega
  constructor
  · have hwithin := hsecond.within
    rw [hlength] at hwithin
    refine (hfirst.within.mono (Nat.le_refl _) ?_).append
      (hwithin.mono (Nat.le_add_right ..) (Nat.le_refl _))
    rw [← hlength]
    exact Nat.le_add_right ..
  · rw [afterAll_append, hsecond.cache_eq]
  · rw [afterAll_append]
    exact shows_append.2 ⟨hfirst.shows.afterAll hsecond.within (.inl (Nat.le_refl _)),
      hsecond.shows⟩

/-- Others take steps between two steps of a caller. -/
theorem Leads.enclose {number : Nat} {step last : Step} {during : List Step}
    {middle cache : Cache} {standing : Standing × Bool} {others : List (Standing × Bool)}
    (hduring : Leads (traffic.after step) (number + 1) during middle others)
    (hstep : step.caller = numbered number) (hlast : last.caller = numbered number)
    (hcache : (((traffic.after step).afterAll during).after last).cache = cache)
    (hcall : ((((traffic.after step).afterAll during).after last).calls.get?
      (numbered number)).bind Call.standing? = some standing) :
    Leads traffic number (step :: during ++ [last]) cache (standing :: others) := by
  have hlength : number + (standing :: others).length = number + 1 + others.length := by
    rw [List.length_cons]
    omega
  have hwithin := hduring.within
  rw [← hlength] at hwithin
  have hsingle {step : Step} (hstep : step.caller = numbered number) :
      Within number (number + (standing :: others).length) [step] :=
    (within_singleton hstep).mono (Nat.le_refl number) (by rw [hlength]; omega)
  have hafter : traffic.afterAll (step :: during ++ [last]) =
      ((traffic.after step).afterAll during).after last := by
    rw [afterAll_append, afterAll_cons, afterAll_cons, afterAll_nil]
  constructor
  · exact ((hsingle hstep).append (hwithin.mono (Nat.le_succ number) (Nat.le_refl _))).append
      (hsingle hlast)
  · rw [hafter, hcache]
  · rw [hafter]
    exact ⟨hcall, hduring.shows.afterAll (within_singleton hlast) (.inr (Nat.le_refl _))⟩

/-! ### Callers that are started -/

/-- The callers from a number on have not consulted the cache. -/
def Vacant (traffic : Traffic) (number : Nat) : Prop :=
  ∀ other, number ≤ other → traffic.calls.get? (numbered other) = none

theorem Vacant.afterAll {number low high : Nat} {steps : List Step}
    (hvacant : traffic.Vacant number) (hwithin : Within low high steps) (hle : number ≤ high) :
    (traffic.afterAll steps).Vacant high := by
  intro other hother
  rw [calls_afterAll_of_within hwithin (.inr hother)]
  exact hvacant other (Nat.le_trans hle hother)

/-- A caller that does not have to generate takes one step. -/
theorem leads_told {number : Nat} {lookup : Lookup} {told : Instruction} {cache : Cache}
    {standing : Standing × Bool} (hvacant : traffic.Vacant number)
    (hconsult : traffic.cache.consult lookup = (told, cache))
    (hstanding : Call.standing? ⟨lookup, told, endingOf told⟩ = some standing) :
    Leads traffic number [.consult (numbered number) lookup] cache [standing] := by
  have hafter : traffic.afterAll [.consult (numbered number) lookup] =
      traffic.enter (numbered number) lookup :=
    after_consult lookup (hvacant number (Nat.le_refl number))
  refine ⟨within_singleton rfl, ?_, ?_, trivial⟩
  · rw [hafter, enter, hconsult]
  · rw [hafter, enter, hconsult, ← hstanding]
    exact congrArg (Option.bind · Call.standing?) (Table.get?_insert_self ..)

/-- Others take steps while a caller generates. -/
theorem get?_of_enter {number high : Nat} {lookup : Lookup} {guard : Option Guard}
    {during : List Step} (htold : (traffic.cache.consult lookup).1 = .generate guard)
    (hwithin : Within (number + 1) high during) :
    ((traffic.enter (numbered number) lookup).afterAll during).calls.get? (numbered number) =
      some ⟨lookup, .generate guard, none⟩ := by
  rw [calls_afterAll_of_within hwithin (.inl (Nat.lt_succ_self number)), enter, htold]
  exact Table.get?_insert_self ..

/-- The step in which a caller has a result, or breaks down if there is none. -/
def Step.ofResult (caller : String) : Option (Except TokenError Minted) → Step
  | some result => .finish caller result
  | none => .breakDown caller

/-- Where a caller stands that has a result or breaks down, and the cache after that. -/
def concluded (cache : Cache) (lookup : Lookup) (guard : Option Guard) :
    Option (Except TokenError Minted) → Standing × Cache
  | some result =>
    let (answer, cache) := cache.deliver lookup guard result
    (.answered answer, cache)
  | none => (.brokenDown, cache.abandon lookup guard)

/-- Where slots have owners, no caller finds its generation delivered. -/
theorem after_ofResult (hown : Ownership traffic) {caller : String} {lookup : Lookup}
    {guard : Option Guard}
    (hcall : traffic.calls.get? caller = some ⟨lookup, .generate guard, none⟩)
    (result : Option (Except TokenError Minted)) :
    (traffic.after (.ofResult caller result)).cache =
        (concluded traffic.cache lookup guard result).2 ∧
      ((traffic.after (.ofResult caller result)).calls.get? caller).bind Call.standing? =
        some ((concluded traffic.cache lookup guard result).1, true) := by
  have hdelivered := hown.not_isDelivered hcall
  cases result with
  | some result =>
    have hafter : traffic.after (.ofResult caller (some result)) =
        traffic.finish caller lookup guard result := by
      simp only [Step.ofResult, after, hcall]
    rw [hafter, finish, hdelivered]
    exact ⟨rfl, congrArg (Option.bind · Call.standing?) (Table.get?_insert_self ..)⟩
  | none =>
    have hafter : traffic.after (.ofResult caller none) =
        traffic.breakDown caller lookup guard := by
      simp only [Step.ofResult, after, hcall]
    rw [hafter, breakDown, hdelivered]
    exact ⟨rfl, congrArg (Option.bind · Call.standing?) (Table.get?_insert_self ..)⟩

/-- A caller has a result or breaks down once the others are done that came along. -/
theorem leads_generate (hown : Ownership traffic) {number : Nat} {lookup : Lookup}
    {guard : Option Guard} {during : List Step} {middle : Cache}
    {others : List (Standing × Bool)} (hvacant : traffic.Vacant number)
    (htold : (traffic.cache.consult lookup).1 = .generate guard)
    (hduring : Leads (traffic.enter (numbered number) lookup) (number + 1) during middle others)
    (result : Option (Except TokenError Minted)) :
    Leads traffic number
      (.consult (numbered number) lookup :: during ++ [.ofResult (numbered number) result])
      (concluded middle lookup guard result).2
      (((concluded middle lookup guard result).1, true) :: others) := by
  have henter := after_consult lookup (hvacant number (Nat.le_refl number))
  have hcall := get?_of_enter htold hduring.within
  rw [← henter] at hduring hcall
  have hmiddle : Ownership ((traffic.after (.consult (numbered number) lookup)).afterAll during) :=
    (hown.change (change_after hown _)).afterAll during
  obtain ⟨hcache, hstanding⟩ := after_ofResult hmiddle hcall result
  rw [hduring.cache_eq] at hcache hstanding
  refine hduring.enclose rfl ?_ hcache hstanding
  cases result <;> rfl

mutual

/-- A caller is started by steps of the callers with the next numbers. -/
theorem exists_leads_start {traffic : Traffic} (hown : Ownership traffic) {number : Nat}
    (hvacant : traffic.Vacant number) (caller : Caller) :
    ∃ steps, Leads traffic number steps (caller.start traffic.cache).2
      (caller.start traffic.cache).1.standings := by
  match caller with
  | .stats now => exact ⟨[], by simp [Within], rfl, trivial⟩
  | .tokens lookup product during =>
    cases hconsult : traffic.cache.consult lookup with
    | mk told cache =>
      cases told with
      | served served =>
        simp only [Caller.start, hconsult]
        exact ⟨_, leads_told hvacant hconsult rfl⟩
      | wait generation =>
        simp only [Caller.start, hconsult]
        exact ⟨_, leads_told hvacant hconsult rfl⟩
      | generate guard =>
        have henter := after_consult lookup (hvacant number (Nat.le_refl number))
        have hownNext := hown.change (change_after hown (.consult (numbered number) lookup))
        have hfirst : Within number (number + 1) [.consult (numbered number) lookup] :=
          within_singleton rfl
        have hvacantNext := hvacant.afterAll hfirst (Nat.le_succ number)
        have hcache : (traffic.enter (numbered number) lookup).cache = cache := by
          rw [enter, hconsult]
        rw [afterAll_cons, afterAll_nil, henter] at hvacantNext
        rw [henter] at hownNext
        obtain ⟨steps, hsteps⟩ := exists_leads_startAll hownNext hvacantNext during
        rw [hcache] at hsteps
        have hleads := leads_generate hown hvacant (congrArg Prod.fst hconsult) hsteps
          (product.result? lookup.now)
        simp only [Caller.start, hconsult]
        cases hresult : product.result? lookup.now with
        | some result =>
          rw [hresult] at hleads
          exact ⟨_, hleads⟩
        | none =>
          rw [hresult] at hleads
          exact ⟨_, hleads⟩

theorem exists_leads_startAll {traffic : Traffic} (hown : Ownership traffic) {number : Nat}
    (hvacant : traffic.Vacant number) (callers : List Caller) :
    ∃ steps, Leads traffic number steps (Caller.startAll traffic.cache callers).2
      (Report.standings.standingsAll (Caller.startAll traffic.cache callers).1) := by
  match callers with
  | [] => exact ⟨[], by simp [Within], rfl, trivial⟩
  | caller :: rest =>
    obtain ⟨first, hfirst⟩ := exists_leads_start hown hvacant caller
    obtain ⟨second, hsecond⟩ := exists_leads_startAll (hown.afterAll first)
      (hvacant.afterAll hfirst.within (Nat.le_add_right ..)) rest
    rw [hfirst.cache_eq] at hsecond
    refine ⟨first ++ second, ?_⟩
    rw [Caller.startAll, Report.standings.standingsAll, Report.standings_mark]
    exact hfirst.append hsecond

end

/-! ### Callers that are told the verdict -/

theorem settle_of_ne_waiting (cache : Cache) {standing : Standing}
    (hstanding : ∀ generation, standing ≠ .waiting generation) :
    standing.settle cache = standing := by
  cases standing with
  | answered answer => rfl
  | waiting generation => exact absurd rfl (hstanding generation)
  | brokenDown => rfl

/-- A call waits, or it has ended. -/
theorem Call.standing?_cases {call : Call} {standing : Standing × Bool}
    (hstanding : call.standing? = some standing) :
    (∃ lookup generation, call = ⟨lookup, .wait generation, none⟩ ∧
      standing = (.waiting generation, false)) ∨
    (call.ending ≠ none ∧ ∀ generation, standing.1 ≠ .waiting generation) := by
  obtain ⟨lookup, told, ending⟩ := call
  cases ending with
  | none =>
    cases told with
    | served served => cases hstanding
    | wait generation => exact .inl ⟨lookup, generation, rfl, (Option.some.inj hstanding).symm⟩
    | generate guard => cases hstanding
  | some ending =>
    refine .inr ⟨nofun, fun generation ↦ ?_⟩
    cases told <;> cases ending <;> cases hstanding <;> exact nofun

/-- A caller that waited looks for the verdict. -/
theorem leads_resume (hown : Ownership traffic) {number : Nat} {standing : Standing × Bool}
    (hstanding :
      (traffic.calls.get? (numbered number)).bind Call.standing? = some standing) :
    Leads traffic number [.resume (numbered number)] traffic.cache
      [standing.map (Standing.settle traffic.cache) id] := by
  have hone : Within number (number + 1) [.resume (numbered number)] := within_singleton rfl
  obtain ⟨call, hcall, hstands⟩ := Option.bind_eq_some_iff.1 hstanding
  rcases Call.standing?_cases hstands with ⟨lookup, generation, rfl, rfl⟩ | ⟨hended, hdone⟩
  · have hafter : traffic.afterAll [.resume (numbered number)] =
        traffic.resume (numbered number) lookup generation := by
      simp only [afterAll_cons, afterAll_nil, after, hcall]
    obtain ⟨winner, won, guard, ending, hclaimed, rfl, -⟩ := hown.isClaimed_of_waits hcall
    rw [resume_eq hown hclaimed] at hafter
    have hverdict := hown.verdict?_of_claimed hclaimed
    cases ending with
    | none =>
      rw [afterLook] at hafter
      refine ⟨hone, by rw [hafter], ?_, trivial⟩
      simp [hafter, hcall, Call.standing?, Standing.settle, Cache.await?, hverdict]
    | some ending =>
      rw [afterLook] at hafter
      refine ⟨hone, by rw [hafter]; rfl, ?_, trivial⟩
      simp [hafter, calls_setCall, Call.standing?, Standing.settle, Cache.await?, hverdict]
  · have hafter : traffic.afterAll [.resume (numbered number)] = traffic := by
      rcases traffic.after_cases (.resume (numbered number)) with h | ⟨_, _, h, -⟩ |
        ⟨_, _, _, _, h, -⟩ | ⟨_, _, _, h, -⟩ | ⟨_, _, _, h, hwaits, -⟩
      · exact h
      · cases h
      · cases h
      · cases h
      · obtain rfl := Step.resume.inj h
        rw [Waits, hcall] at hwaits
        cases hwaits
        exact absurd rfl hended
    rw [Prod.map, settle_of_ne_waiting _ hdone]
    exact ⟨hone, by rw [hafter], by rw [hafter, hstanding]; rfl, trivial⟩

theorem exists_leads_settle (hown : Ownership traffic) {number : Nat}
    {standings : List (Standing × Bool)} (hshows : Shows traffic number standings) :
    ∃ steps, Leads traffic number steps traffic.cache
      (standings.map (Prod.map (Standing.settle traffic.cache) id)) := by
  induction standings generalizing traffic number with
  | nil => exact ⟨[], by simp [Within], rfl, trivial⟩
  | cons standing rest ih =>
    obtain ⟨hfirst, hrest⟩ := hshows
    have hleads := leads_resume hown hfirst
    have hnext := hrest.afterAll hleads.within (.inr (Nat.le_refl _))
    obtain ⟨steps, hsteps⟩ := ih (hown.afterAll _) hnext
    rw [hleads.cache_eq] at hsteps
    exact ⟨_, hleads.append hsteps⟩

/-! ### The main statements -/

/-- Every caller that takes part when callers are started has a call that stands as reported. -/
theorem exists_leads_initial (policy : Policy) (callers : List Caller) :
    ∃ steps, Leads (initial policy) 0 steps (Caller.startAll (.empty policy) callers).2
        (Report.standings.standingsAll (Caller.startAll (.empty policy) callers).1) ∧
      ∀ caller call, (run policy steps).calls.get? caller = some call → call.standing?.isSome := by
  have hvacant : (initial policy).Vacant 0 := fun _ _ ↦ rfl
  obtain ⟨steps, hleads⟩ := exists_leads_startAll (ownership_initial policy) hvacant callers
  refine ⟨steps, hleads, fun caller call hcall ↦ ?_⟩
  by_cases hcaller : ∃ step ∈ steps, caller = step.caller
  · obtain ⟨step, hstep, rfl⟩ := hcaller
    obtain ⟨number, -, hlt, hnumber⟩ := hleads.within step hstep
    rw [Nat.zero_add] at hlt
    have hget := hleads.shows.get? number hlt
    rw [Nat.zero_add, ← hnumber, ← run, hcall, List.getElem?_eq_getElem hlt] at hget
    exact Option.isSome_iff_exists.2 ⟨_, hget⟩
  · have hnone := calls_afterAll_of_ne (initial policy) fun step hstep h ↦
      hcaller ⟨step, hstep, h⟩
    rw [← run, hcall] at hnone
    cases hnone

/-- Nested callers run in one of the orders that a traffic allows for. -/
theorem exists_steps_of_run (policy : Policy) (callers : List Caller) :
    ∃ steps, (run policy steps).cache = (Caller.run (.empty policy) callers).2 ∧
      ∀ number, ((run policy steps).calls.get? (numbered number)).bind Call.standing? =
        (Report.standings.standingsAll (Caller.run (.empty policy) callers).1)[number]? := by
  have hvacant : (initial policy).Vacant 0 := fun _ _ ↦ rfl
  obtain ⟨first, hfirst, -⟩ := exists_leads_initial policy callers
  obtain ⟨second, hsecond⟩ := exists_leads_settle (ownership_run policy first) hfirst.shows
  rw [show (run policy first).cache = _ from hfirst.cache_eq] at hsecond
  have hrun : run policy (first ++ second) = (run policy first).afterAll second :=
    afterAll_append ..
  refine ⟨first ++ second, ?_, fun number ↦ ?_⟩
  · rw [hrun]
    exact hsecond.cache_eq
  · rw [hrun, Caller.standings_run]
    rcases Nat.lt_or_ge number (Report.standings.standingsAll
      (Caller.startAll (.empty policy) callers).1).length with hlt | hge
    · have hget := hsecond.shows.get? number (by rwa [List.length_map])
      rwa [Nat.zero_add] at hget
    · have hout := (hvacant.afterAll hfirst.within (Nat.zero_le _)).afterAll
        hsecond.within (by simp)
      rw [← run] at hout
      rw [hout number (by simpa using hge), List.getElem?_eq_none (by rwa [List.length_map])]
      rfl

/-- Nobody is left waiting: whoever waits for a generation has the verdict on it when the nested
callers are done. -/
theorem not_waiting_of_run (policy : Policy) (callers : List Caller) (generation : Nat) :
    ∀ standing ∈ Report.standings.standingsAll (Caller.run (.empty policy) callers).1,
      standing.1 ≠ .waiting generation := by
  obtain ⟨steps, hleads, hstandings⟩ := exists_leads_initial policy callers
  have hown := ownership_run policy steps
  intro standing hstanding
  rw [Caller.standings_run] at hstanding
  obtain ⟨before, hbefore, rfl⟩ := List.mem_map.1 hstanding
  obtain ⟨caller, call, hcall, hstands⟩ := hleads.shows.exists_call hbefore
  rcases Call.standing?_cases hstands with ⟨lookup, other, rfl, rfl⟩ | ⟨-, hdone⟩
  · obtain ⟨winner, won, guard, ending, hclaimed, rfl, -⟩ := hown.isClaimed_of_waits hcall
    have hverdict := hown.verdict?_of_claimed hclaimed
    rw [show (run policy steps).cache = _ from hleads.cache_eq] at hverdict
    cases ending with
    | none => exact absurd (hstandings winner _ hclaimed) (by simp [Call.standing?])
    | some ending => simp [Standing.settle, Cache.await?, hverdict]
  · rw [Prod.map_fst, settle_of_ne_waiting _ hdone]
    exact hdone generation

end Traffic

end TokenMint
