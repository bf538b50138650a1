import Mathlib.Data.List.Induction
import TokenMint.Proofs.Engine.Clock
import TokenMint.Proofs.Engine.Justified
import TokenMint.Proofs.Engine.Progress
import TokenMint.Proofs.Engine.Refinement

/-!
# Paths that get no tokens

A path gets no tokens if no scope covers it, if the settings of its chain are refused or disabled,
or if their filter rejects it (`Engine.Idle`). None of this depends on what happened before, and
what an engine remembers about a chain does not change it (`Engine.idle_iff`).

The requests for such a path are told so when they arrive, and nothing changes then but the memory
of resolutions, the counters and the notices to the operator (`Engine.State.turnAway`). The clock is
not read: the request comes to the same whatever the clock shows, and whether or not it can be
read. Every other request reads the clock when it arrives. If that fails, the error is the reply;
otherwise the request goes on with what it has read and never asks the clock again
(`Engine.Stage.ignoresClock_advance`). It is not told that no tokens are due. So the readings of a
whole run are those of the arrivals that are due tokens, one each, and one for each time that the
statistics were asked for (`Service.clockReadings_run`).

`Service.idle_decided` states this for the visitors of any run and for requests that come after it,
requests that are made one after the other among them (`Service.exists_steps_of_visits`).
-/

set_option autoImplicit false
set_option relaxedAutoImplicit false

namespace TokenMint

theorem Settings.admits_eq_false_iff (settings : Settings) (path : String) :
    settings.admits path = false ↔
      settings.enabled = false ∨
        ∃ filter, settings.onlyFor = some filter ∧ filter.matches? path = false := by
  unfold Settings.admits
  cases settings.enabled <;> cases settings.onlyFor <;> simp

namespace Engine

/-! ### Why no tokens are due -/

/-- Why a path gets no tokens. -/
inductive Idle (engine : Engine) (path : String) : Prop
  /-- No scope covers it. -/
  | uncovered (hscopes : ∀ scope ∈ engine.tree.scopes, scope.pattern.matches? path = false)
  /-- The settings of its chain are refused. -/
  | refused {chain : Chain} {fault : ConfigFault} (hchain : engine.tree.chain path = .ok chain)
    (hfault : (chain.settings engine.root).validate = .error fault)
  | disabled {chain : Chain} (hchain : engine.tree.chain path = .ok chain)
    (hdisabled : (chain.settings engine.root).enabled = false)
  /-- The filter of its chain rejects it. -/
  | filtered {chain : Chain} {filter : Regex} (hchain : engine.tree.chain path = .ok chain)
    (hfilter : (chain.settings engine.root).onlyFor = some filter)
    (hmatches : filter.matches? path = false)

variable {engine : Engine} {path : String} {state : State}

/-- A path gets no tokens if and only if it does not resolve to settings that admit it. -/
theorem idle_iff (engine : Engine) (path : String) :
    engine.Idle path ↔
      ∀ chain settings, Plain.resolve engine path = .ok (chain, settings) →
        settings.admits path = false := by
  constructor
  · rintro hidle chain settings hresolve
    obtain ⟨hfound, rfl, hvalid⟩ := (plain_resolve_eq_ok_iff engine).1 hresolve
    cases hidle with
    | uncovered hscopes =>
      have hnone := (engine.tree.chain_eq_error_iff path (.noMatchingScope path)).2
        ⟨(engine.tree.covering_eq_nil_iff path).2 hscopes, rfl⟩
      exact absurd (hnone.symm.trans hfound) (by simp)
    | refused hchain hfault =>
      obtain rfl := Except.ok.inj (hchain.symm.trans hfound)
      exact absurd (hfault.symm.trans hvalid) (by simp)
    | disabled hchain hdisabled =>
      obtain rfl := Except.ok.inj (hchain.symm.trans hfound)
      exact (Settings.admits_eq_false_iff _ path).2 (.inl hdisabled)
    | filtered hchain hfilter hmatches =>
      obtain rfl := Except.ok.inj (hchain.symm.trans hfound)
      exact (Settings.admits_eq_false_iff _ path).2 (.inr ⟨_, hfilter, hmatches⟩)
  · intro hrejects
    cases hchain : engine.tree.chain path with
    | error error =>
      have hnone := ((engine.tree.chain_eq_error_iff path error).1 hchain).1
      exact .uncovered ((engine.tree.covering_eq_nil_iff path).1 hnone)
    | ok chain =>
      cases hvalid : (chain.settings engine.root).validate with
      | error fault => exact .refused hchain hvalid
      | ok =>
        have hresolve := (plain_resolve_eq_ok_iff engine).2 ⟨hchain, rfl, hvalid⟩
        rcases (Settings.admits_eq_false_iff _ path).1 (hrejects _ _ hresolve) with
          hdisabled | ⟨filter, hfilter, hmatches⟩
        · exact .disabled hchain hdisabled
        · exact .filtered hchain hfilter hmatches

instance (engine : Engine) (path : String) : Decidable (engine.Idle path) :=
  decidable_of_iff
    ((Plain.resolve engine path).toOption.all (fun resolved ↦ !resolved.2.admits path) = true) <| by
    rw [idle_iff]
    cases Plain.resolve engine path with
    | error error => simp [Except.toOption]
    | ok resolved =>
      obtain ⟨chain, settings⟩ := resolved
      simp only [Except.toOption, Option.all_some, Bool.not_eq_true', Except.ok.injEq]
      exact ⟨fun hrejects _ _ hsame ↦ (Prod.mk.inj hsame).2 ▸ hrejects,
        fun hrejects ↦ hrejects _ _ rfl⟩

/-- A visit is due tokens if and only if its path gets any. -/
theorem not_due_iff_idle (engine : Engine) (visit : Visit) :
    (∀ chain settings, ¬engine.Due visit chain settings) ↔ engine.Idle visit.path := by
  rw [idle_iff]
  constructor
  · intro hdue chain settings hresolve
    exact Bool.eq_false_iff.2 fun hadmits ↦ hdue chain settings ⟨hresolve, hadmits⟩
  · intro hrejects chain settings hdue
    exact absurd (hrejects chain settings hdue.resolves) (by simp [hdue.admits])

/-- Any other path is due tokens, whatever the clock shows. -/
theorem exists_due_of_not_idle (hactive : ¬engine.Idle path) :
    ∃ chain settings, ∀ reading, engine.Due ⟨path, reading⟩ chain settings := by
  obtain ⟨chain, settings, hresolves, hadmits⟩ :
      ∃ chain settings, Plain.resolve engine path = .ok (chain, settings) ∧
        settings.admits path = true := by
    rw [idle_iff] at hactive
    simpa using hactive
  exact ⟨chain, settings, fun _ ↦ ⟨hresolves, hadmits⟩⟩

/-! ### Arrivals -/

/-- The state after a request for a path has been told that no tokens are due. -/
def State.turnAway (engine : Engine) (path : String) (state : State) : State :=
  (engine.resolve path state).2.record .inactive

theorem State.turnAway_withClock (engine : Engine) (path : String) (state : State)
    (shown : Except TokenError Duration) (readings : Nat) :
    (state.withClock shown readings).turnAway engine path =
      (state.turnAway engine path).withClock shown readings := by
  unfold State.turnAway
  rw [ignoresClock_resolve engine path state shown readings]
  rfl

/-- The request is told so before the clock is read. -/
theorem Idle.receive (hidle : engine.Idle path) (hmemo : engine.Remembers state.resolutions)
    (reading : Except TokenError Duration) :
    engine.receive ⟨path, reading⟩ state =
      (.answered (.ok none), state.turnAway engine path) := by
  have hplain := (hmemo.resolve path).1
  cases hresolved : Plain.resolve engine path with
  | error error =>
    have hresolve : engine.resolve path state = (.error error, (engine.resolve path state).2) :=
      Prod.ext (hplain.trans hresolved) rfl
    rw [Engine.receive, hresolve]
    simp only [isInactive_of_plain_resolve hresolved, if_true]
    rfl
  | ok resolved =>
    have hresolve : engine.resolve path state = (.ok resolved, (engine.resolve path state).2) :=
      Prod.ext (hplain.trans hresolved) rfl
    have hadmits := (idle_iff engine path).1 hidle _ _ hresolved
    rw [Engine.receive, hresolve]
    simp only [hadmits, Bool.false_eq_true, if_false]
    rfl

/-- A request that is due tokens reads the clock, and goes on with what it shows if it can be
read. -/
theorem Due.receive {visit : Visit} {chain : Chain} {settings : Settings}
    (hdue : engine.Due visit chain settings) (hmemo : engine.Remembers state.resolutions) :
    engine.receive visit state =
      (match visit.clock with
        | .error error => .answered (.error error)
        | .ok now => .next now [] (Demand.ofChain chain settings),
        { (engine.resolve visit.path state).2 with
          clockReadings := state.clockReadings + 1 }) := by
  have hresolve : engine.resolve visit.path state =
      (.ok (chain, settings), (engine.resolve visit.path state).2) :=
    Prod.ext ((hmemo.resolve visit.path).1.trans hdue.resolves) rfl
  have hreadings := clockReadings_resolve engine visit.path state
  rw [Engine.receive, hresolve]
  simp only [hdue.admits, if_true, State.readClock, hreadings]
  cases visit.clock <;> rfl

/-- A request that is answered when it arrives is through at once. -/
theorem mint_of_receive {reply : Reply} {after : State}
    (hreceive : engine.receive ⟨path, state.clock⟩ state = (.answered reply, after)) :
    engine.mint path state = (.answered reply, after) := by
  have hstart : engine.start path state = (.answered reply, after) := by
    unfold Engine.receive at hreceive
    unfold Engine.start
    rcases hresolve : engine.resolve path state with ⟨error | ⟨chain, settings⟩, next⟩
    · rw [hresolve] at hreceive
      cases hinactive : error.isInactive <;> simpa [hinactive] using hreceive
    · have hclock : next.clock = state.clock := by
        simpa only [hresolve] using clock_resolve engine path state
      rw [hresolve] at hreceive
      cases hadmits : settings.admits path with
      | false => simpa [hadmits] using hreceive
      | true =>
        simp only [hadmits, if_true, hclock] at hreceive ⊢
        cases hreading : state.clock with
        | error error => simpa [hreading, State.readClock] using hreceive
        | ok now =>
          -- A demand is pursued, for the chain has one at least.
          simp [hreading, State.readClock, Demand.ofChain, Stage.next] at hreceive
  simp only [Engine.mint, hstart]
  rfl

/-! ### What becomes of a request -/

/-- A request is told that no tokens are due, whatever the clock shows and whether or not it can be
read. It does not read the clock and draws nothing, and what is kept stays as it is. -/
structure TurnsAway (engine : Engine) (path : String) (state : State) : Prop where
  receive (shown : Except TokenError Duration) : engine.receive ⟨path, shown⟩ state =
    (.answered (.ok none), state.turnAway engine path)
  mint (shown : Except TokenError Duration) (readings : Nat) :
    engine.mint path (state.withClock shown readings) =
      (.answered (.ok none), (state.turnAway engine path).withClock shown readings)
  cache : (state.turnAway engine path).cache = state.cache
  entropy : (state.turnAway engine path).entropy = state.entropy
  clockReadings : (state.turnAway engine path).clockReadings = state.clockReadings

/-- A request reads the clock once, and it fails or is emitted tokens. -/
structure Admits (engine : Engine) (path : String) (state : State) : Prop where
  /-- An error of the clock is the reply. -/
  unread (error : TokenError) : engine.receive ⟨path, .error error⟩ state =
    (.answered (.error error),
      { (engine.resolve path state).2 with clockReadings := state.clockReadings + 1 })
  unread_mint (error : TokenError) (readings : Nat) :
    (engine.mint path (state.withClock (.error error) readings)).1 = .answered (.error error)
  /-- Demands are pursued with what was read. -/
  read : ∃ demand pending, ∀ now, engine.receive ⟨path, .ok now⟩ state =
    (.asking ⟨now, [], demand, pending⟩,
      { (engine.resolve path state).2 with clockReadings := state.clockReadings + 1 })
  /-- The clock is not asked again. -/
  later (stage : Stage) : State.IgnoresClock (stage.advance engine)
  later_clockReadings (stage : Stage) (state : State) :
    (stage.advance engine state).2.clockReadings = state.clockReadings ∧
      (stage.breakDown state).2.clockReadings = state.clockReadings
  /-- The whole request reads the clock once. -/
  clockReadings : (engine.mint path state).2.clockReadings = state.clockReadings + 1
  reply (reply : Reply) : (engine.mint path state).1 = .answered reply →
    (∃ error, reply = .error error) ∨ ∃ emission, reply = .ok (some emission)
  /-- There is a reply if no generation runs that the request could have to wait for. -/
  answered (table : Table Kept) : state.cache.Keeps table →
    ∃ reply, (engine.mint path state).1 = .answered reply

theorem Idle.turnsAway (hidle : engine.Idle path) (hmemo : engine.Remembers state.resolutions) :
    engine.TurnsAway path state where
  receive := hidle.receive hmemo
  mint shown readings := by
    have hsame : engine.Remembers (state.withClock shown readings).resolutions := hmemo
    rw [← State.turnAway_withClock]
    exact mint_of_receive (hidle.receive hsame shown)
  cache := cache_resolve engine path state
  entropy := entropy_resolve engine path state
  clockReadings := clockReadings_resolve engine path state

end Engine

/-! ### A scope for each cause -/

namespace FourCauses

/-- A scope that admits every path that begins with a slash. -/
def site : Scope :=
  ⟨"site", .location "/", .empty⟩

/-- Signatures are asked for, and there is no key. -/
def unsigned : Scope :=
  ⟨"unsigned", .location "/unsigned", { Layer.empty with signed := some true }⟩

def off : Scope :=
  ⟨"off", .location "/off", { Layer.empty with enabled := some false }⟩

/-- Only paths with a hyphen are admitted. -/
def hyphened : Scope :=
  ⟨"hyphened", .location "/hyphened",
    { Layer.empty with onlyFor := some ⟨"-", .one (.single '-')⟩ }⟩

/-- The engine of these scopes. -/
def engine : Engine where
  tree :=
    { scopes := [site, unsigned, off, hyphened]
      isName := by decide
      nodup_names := by decide
      valid := by
        simp only [List.forall_mem_cons]
        exact ⟨rfl, rfl, rfl, rfl, List.forall_mem_nil _⟩ }
  root := .standard
  source := .cyclic [1] []
  root_key := Settings.signingKey_standard
  root_valid := Settings.validate_standard

/-- A path below the site and one of the other scopes has the chain of these two. -/
theorem chain_eq (path : String) (index : Nat) (scope : Scope)
    (hcovering : engine.tree.covering path = [⟨0, site⟩, ⟨index, scope⟩])
    (hprecedes : (⟨0, site⟩ : PlacedScope).precedes ⟨index, scope⟩ = true) :
    engine.tree.chain path = .ok ⟨[⟨0, site⟩, ⟨index, scope⟩]⟩ := by
  refine (engine.tree.chain_eq_ok_iff path _).2 ⟨by simp, hcovering ▸ .refl _, ?_⟩
  simpa using hprecedes

end FourCauses

namespace Service

open Engine (Progress Reply Stage State)

variable {engine : Engine} {policy : Policy} {clock : Except TokenError Duration}
  {collector : Collector} {steps : List Step}

/-- A visitor is told that no tokens are due if and only if its path gets none. -/
theorem answered_none_iff {visitor : Engine.Visitor}
    (hvisitor : visitor ∈ (run engine policy clock collector steps).visitors) :
    visitor.stage = .answered (.ok none) ↔ engine.Idle visitor.visit.path := by
  obtain ⟨labels, hsound⟩ := sound_run_any engine policy clock collector steps
  have hstage := hsound.visitors visitor hvisitor
  rw [← Engine.not_due_iff_idle]
  refine ⟨fun hanswered ↦ ?_, hstage.eq_idle⟩
  rw [hanswered] at hstage
  cases hstage with
  | idle hidle => exact hidle

/-- A request that nothing overlaps is one more visitor, who goes on until it is through. -/
theorem exists_run_eq_of_mint (engine : Engine) (policy : Policy)
    (clock : Except TokenError Duration) (collector : Collector) (steps : List Step)
    (path : String) :
    let service := run engine policy clock collector steps
    let visit : Visit := ⟨path, service.state.clock⟩
    ∃ count, run engine policy clock collector
        (steps ++ .arrive visit :: List.replicate count (.advance service.visitors.length)) =
      service.enter visit (Stage.ofResult (engine.mint path service.state)) := by
  intro service visit
  obtain ⟨count, hleads⟩ := leads_mint engine service path
  exact ⟨count, (afterAll_append _ steps _).trans hleads⟩

theorem mint_answered_none_iff (path : String) :
    let state := (run engine policy clock collector steps).state
    (engine.mint path state).1 = .answered (.ok none) ↔ engine.Idle path := by
  intro state
  obtain ⟨count, hrun⟩ := exists_run_eq_of_mint engine policy clock collector steps path
  have hvisitor : ⟨⟨path, state.clock⟩, .ofProgress (engine.mint path state).1⟩ ∈
      ((run engine policy clock collector steps).enter ⟨path, state.clock⟩
        (Stage.ofResult (engine.mint path state))).visitors :=
    List.mem_append_right _ (List.mem_singleton.2 rfl)
  rw [← hrun] at hvisitor
  refine Iff.trans ?_ (answered_none_iff hvisitor)
  cases (engine.mint path state).1 <;> simp [Stage.ofProgress]

/-! ### How often the clock is read -/

/-- Whether a step reads the clock: someone comes who is due tokens, or the statistics are asked
for. -/
def Step.readsClock (engine : Engine) : Step → Bool
  | .arrive visit => !decide (engine.Idle visit.path)
  | .act action => action.readsClock
  | .advance _ | .breakDown _ => false

theorem clockReadings_after (service : Service)
    (hmemo : engine.Remembers service.state.resolutions) (step : Step) :
    (service.after engine step).state.clockReadings =
      service.state.clockReadings + (step.readsClock engine).toNat := by
  cases step with
  | arrive visit =>
    by_cases hidle : engine.Idle visit.path
    · simp only [after, hidle.receive hmemo visit.clock, Step.readsClock, hidle, decide_true]
      exact Engine.clockReadings_resolve engine visit.path service.state
    · obtain ⟨chain, settings, hdue⟩ := Engine.exists_due_of_not_idle hidle
      simp only [after, (hdue visit.clock).receive hmemo, Step.readsClock, hidle, decide_false]
      rfl
  | advance position =>
    simp only [after]
    split
    next => rfl
    next visit stage _ => exact (stage.ignoresClock_advance engine).clockReadings service.state
  | breakDown position =>
    simp only [after]
    split
    next => rfl
    next visit stage _ => exact stage.ignoresClock_breakDown.clockReadings service.state
  | act action =>
    simp only [after]
    split
    next hrequest => cases action <;> first | rfl | simp [isRequest] at hrequest
    next hrequest =>
      exact Engine.clockReadings_begin engine (Bool.eq_false_iff.2 hrequest) service.state

/-- The clock has been read once for each visitor that is due tokens, and once for each time that
the statistics were asked for. -/
theorem clockReadings_run (engine : Engine) (policy : Policy)
    (clock : Except TokenError Duration) (collector : Collector) (steps : List Step) :
    (run engine policy clock collector steps).state.clockReadings =
      steps.countP (Step.readsClock engine) := by
  induction steps using List.reverseRecOn with
  | nil => rfl
  | append_singleton steps step ih =>
    have hstep := clockReadings_after (run engine policy clock collector steps)
      (remembers_run engine policy clock collector steps) step
    have hafter : run engine policy clock collector (steps ++ [step]) =
        (run engine policy clock collector steps).after engine step :=
      afterAll_append _ steps [step]
    rw [hafter, hstep, ih, List.countP_append, List.countP_singleton]
    cases step.readsClock engine <;> rfl

/-- A request that is due tokens reads the clock once from its start to its end. -/
theorem clockReadings_mint {path : String} (hactive : ¬engine.Idle path) :
    let state := (run engine policy clock collector steps).state
    (engine.mint path state).2.clockReadings = state.clockReadings + 1 := by
  intro state
  obtain ⟨count, hrun⟩ := exists_run_eq_of_mint engine policy clock collector steps path
  have hreadings : (engine.mint path state).2.clockReadings = _ :=
    (congrArg (fun service ↦ service.state.clockReadings) hrun.symm).trans
      (clockReadings_run engine policy clock collector _)
  rw [hreadings]
  simp only [state, clockReadings_run]
  simp [List.countP_replicate, Step.readsClock, hactive]

theorem admits_of_not_idle {path : String} (hactive : ¬engine.Idle path) :
    engine.Admits path (run engine policy clock collector steps).state := by
  have hmemo := remembers_run engine policy clock collector steps
  obtain ⟨chain, settings, hdue⟩ := Engine.exists_due_of_not_idle hactive
  constructor
  case unread => exact fun error ↦ (hdue (.error error)).receive hmemo
  case unread_mint =>
    intro error readings
    let state := (run engine policy clock collector steps).state.withClock (.error error) readings
    have hsame : engine.Remembers state.resolutions := hmemo
    exact congrArg Prod.fst (Engine.mint_of_receive ((hdue (.error error)).receive hsame))
  case read => exact ⟨_, _, fun now ↦ (hdue (.ok now)).receive hmemo⟩
  case later => exact Stage.ignoresClock_advance engine
  case later_clockReadings =>
    exact fun stage state ↦ ⟨(stage.ignoresClock_advance engine).clockReadings state,
      stage.ignoresClock_breakDown.clockReadings state⟩
  case clockReadings => exact clockReadings_mint hactive
  case reply =>
    intro reply hreply
    match reply, hreply with
    | .error error, _ => exact .inl ⟨error, rfl⟩
    | .ok (some emission), _ => exact .inr ⟨emission, rfl⟩
    | .ok none, hreply => exact absurd ((mint_answered_none_iff path).1 hreply) hactive
  case answered =>
    intro table hkeeps
    have hmirrors : engine.Mirrors (run engine policy clock collector steps).state
        ⟨table, (run engine policy clock collector steps).state.entropy⟩ := ⟨hkeeps, rfl, hmemo⟩
    exact ⟨_, (Engine.mint_answers hmirrors path).1⟩

/-- Visits that are made one after the other are steps of a service. -/
theorem exists_steps_of_visits (engine : Engine) (service : Service) (visits : List Visit) :
    ∃ steps, (service.afterAll engine steps).state =
      (Session.run engine (visits.flatMap Visit.steps) service.state).2 := by
  induction visits generalizing service with
  | nil => exact ⟨[], rfl⟩
  | cons visit rest ih =>
    let ready := service.after engine (.act (.setClock visit.clock))
    obtain ⟨count, hleads⟩ := leads_mint engine ready visit.path
    let first : List Step := .act (.setClock visit.clock) :: .arrive visit ::
      List.replicate count (.advance ready.visitors.length)
    have hfirst : (service.afterAll engine first).state =
        (Session.run engine visit.steps service.state).2 := by
      rw [(Engine.session_run_visit engine visit service.state).2]
      exact congrArg Service.state hleads
    obtain ⟨more, hmore⟩ := ih (service.afterAll engine first)
    refine ⟨first ++ more, ?_⟩
    rw [afterAll_append, hmore, hfirst, List.flatMap_cons, Session.run_append]

/-- A request gets a reply that follows others without overlapping them. -/
theorem exists_reply_of_visits (engine : Engine) (policy : Policy)
    (clock : Except TokenError Duration) (collector : Collector) (visits : List Visit)
    (path : String) :
    let state :=
      (Session.run engine (visits.flatMap Visit.steps) (.initial policy clock collector)).2
    ∃ reply, (engine.mint path state).1 = .answered reply ∧
      (reply = .ok none ↔ engine.Idle path) := by
  intro state
  have hmirrors := (Engine.run_visits (Engine.mirrors_initial engine policy clock collector)
    visits).2
  obtain ⟨steps, hsteps⟩ := exists_steps_of_visits engine (initial policy clock collector) visits
  have hstate : (run engine policy clock collector steps).state = state := hsteps
  have hidle : (engine.mint path state).1 = .answered (.ok none) ↔ engine.Idle path := by
    rw [← hstate]
    exact mint_answered_none_iff path
  have hreply := (Engine.mint_answers hmirrors path).1
  refine ⟨_, hreply, ?_⟩
  rw [← hidle, hreply, Progress.answered.injEq]

/-- Whatever has happened before, a request is told that no tokens are due if and only if no scope
covers its path, or the settings of its chain are refused or disabled, or their filter rejects the
path. The clock is not read then, nothing is drawn, and what is kept stays as it is. Every other
request reads the clock once, and fails or is emitted tokens, so that the readings of a run can be
told from who has come. If all requests before it are through, which is the state after some steps
as well, a request fails or is emitted tokens without having to wait. -/
theorem idle_decided (engine : Engine) (policy : Policy) (clock : Except TokenError Duration)
    (collector : Collector) (steps : List Step) (path : String) :
    let service := run engine policy clock collector steps
    (∀ visitor ∈ service.visitors,
      visitor.stage = .answered (.ok none) ↔ engine.Idle visitor.visit.path) ∧
    ((engine.mint path service.state).1 = .answered (.ok none) ↔ engine.Idle path) ∧
    (engine.Idle path → engine.TurnsAway path service.state) ∧
    (¬engine.Idle path → engine.Admits path service.state) ∧
    service.state.clockReadings = steps.countP (Step.readsClock engine) ∧
    ∀ visits : List Visit,
      let state :=
        (Session.run engine (visits.flatMap Visit.steps) (.initial policy clock collector)).2
      (∃ others, (run engine policy clock collector others).state = state) ∧
        ∃ reply, (engine.mint path state).1 = .answered reply ∧
          (reply = .ok none ↔ engine.Idle path) :=
  ⟨fun _ hvisitor ↦ answered_none_iff hvisitor, mint_answered_none_iff path,
    fun hidle ↦ hidle.turnsAway (remembers_run engine policy clock collector steps),
    admits_of_not_idle, clockReadings_run engine policy clock collector steps, fun visits ↦
      ⟨exists_steps_of_visits engine (initial policy clock collector) visits,
        exists_reply_of_visits engine policy clock collector visits path⟩⟩

open FourCauses in
/-- Each of the causes turns a request away, one of them from memory, and the clock has not been
read. A path that the filter admits is admitted. -/
theorem idle_decided_fourCauses :
    let state := (run FourCauses.engine .serveStale (.ok .zero) .silent
      [.arrive ⟨"/unsigned", .ok .zero⟩]).state
    (∀ path ∈ ["", "/unsigned/x", "/off", "/hyphened"],
      FourCauses.engine.TurnsAway path state) ∧
      FourCauses.engine.Admits "/hyphened/a-b" state ∧ state.clockReadings = 0 := by
  intro state
  have hdecided (path : String) := (idle_decided FourCauses.engine .serveStale (.ok .zero) .silent
    [.arrive ⟨"/unsigned", .ok .zero⟩] path).2.2
  have huncovered : FourCauses.engine.Idle "" := .uncovered (by decide)
  have hunsigned (path : String)
      (hcovering : FourCauses.engine.tree.covering path = [⟨0, site⟩, ⟨1, unsigned⟩]) :
      FourCauses.engine.Idle path := by
    have hchain := chain_eq path 1 unsigned hcovering (by decide +kernel)
    have hfault : (Chain.settings ⟨[⟨0, site⟩, ⟨1, unsigned⟩]⟩ .standard).validate =
        .error .signingKeyMissing := by decide +kernel
    exact .refused hchain hfault
  have hoff : FourCauses.engine.Idle "/off" :=
    .disabled (chain_eq "/off" 2 off (by decide +kernel) (by decide +kernel)) rfl
  have hfiltered : FourCauses.engine.Idle "/hyphened" :=
    .filtered (chain_eq "/hyphened" 3 hyphened (by decide +kernel) (by decide +kernel)) rfl
      (by decide +kernel)
  have hadmitted : ¬FourCauses.engine.Idle "/hyphened/a-b" := by
    rw [Engine.idle_iff]
    intro hrejects
    have hchain := chain_eq "/hyphened/a-b" 3 hyphened (by decide +kernel) (by decide +kernel)
    have hresolve := (Engine.plain_resolve_eq_ok_iff _).2 ⟨hchain, rfl, by decide +kernel⟩
    exact absurd (hrejects _ _ hresolve) (by decide +kernel)
  have hunread : [Step.arrive ⟨"/unsigned", .ok .zero⟩].countP
      (Step.readsClock FourCauses.engine) = 0 := by
    simp [Step.readsClock, hunsigned "/unsigned" (by decide +kernel)]
  refine ⟨?_, (hdecided _).2.1 hadmitted, (hdecided "").2.2.1.trans hunread⟩
  simp only [List.forall_mem_cons]
  exact ⟨(hdecided _).1 huncovered, (hdecided _).1 (hunsigned _ (by decide +kernel)),
    (hdecided _).1 hoff, (hdecided _).1 hfiltered, List.forall_mem_nil _⟩

end Service

end TokenMint
