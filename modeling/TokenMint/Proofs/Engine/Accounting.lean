import Mathlib.Algebra.BigOperators.Group.Finset.Piecewise
import Mathlib.Data.UInt
import TokenMint.Proofs.Engine.Idle
import TokenMint.Proofs.Engine.Inactive

/-!
# What requests count for

A request that is told that no tokens are due counts once. Any other counts once for each of its
look-ups that was answered, and once more if it fails (`Engine.Visitor.requests`). New tokens are
counted with the look-up that generated them (`Served.newTokens`).

The collector is shared, so the share of a visitor is read off the steps that it takes itself: what
it gets with them (`Service.obtained`) and how far they move a counter (`Service.growth`).
`Engine.Stage.Billed` says what a visitor counts for at every stage. It holds when a visitor is let
in and is kept by each of its steps, while the steps of others leave its share alone, so the shares
are right throughout a run (`Service.balanced_run`). Nothing but a request moves a counter, unless
it is set back: it shows the sum of the shares (`Service.sum_growth`).

One exit records nothing. A request that is due tokens and finds that the clock cannot be read
fails without having been counted (`Service.unreadable_clock_uncounted`); in every other case the
shares are as they should be (`Service.requests_accounted`). A request that nothing overlaps is a
visitor that takes all its steps in a row, so its share is what the counters show after it beyond
what they showed before (`Service.exists_steps_of_mint`).
-/

set_option autoImplicit false
set_option relaxedAutoImplicit false

namespace TokenMint

/-! ### What an event counts for -/

/-- The requests that an event counts for. -/
def Event.requests : Event → Nat
  | generated _ _ => 0
  | lookup _ | inactive | failed _ => 1

/-- The new tokens that an event counts for. -/
def Event.tokens : Event → Nat
  | generated _ count => count
  | lookup _ | inactive | failed _ => 0

/-- The tokens of a look-up that its caller generated itself. -/
def Served.newTokens (served : Served) : Nat :=
  if served.outcome.isFresh then served.minted.tokens.length else 0

theorem Metrics.requests_record (metrics : Metrics) (event : Event) :
    (metrics.record event).requests = metrics.requests + UInt64.ofNat event.requests := by
  cases event with
  | generated duration count => exact (add_zero metrics.requests).symm
  | lookup outcome => cases outcome <;> rfl
  | inactive => rfl
  | failed error => rfl

theorem Metrics.tokens_record (metrics : Metrics) (event : Event) :
    (metrics.record event).tokens = metrics.tokens + UInt64.ofNat event.tokens := by
  cases event with
  | generated duration count => rfl
  | lookup outcome => cases outcome <;> exact (add_zero metrics.tokens).symm
  | inactive => exact (add_zero metrics.tokens).symm
  | failed error => exact (add_zero metrics.tokens).symm

namespace Collector

/-- Whether a collector counts at all. -/
def Counts (collector : Collector) : Prop :=
  ∃ metrics, collector = counting metrics

/-- A collector that counts shows so many more requests and tokens than another. -/
structure Gains (before after : Collector) (requests tokens : Nat) : Prop where
  counts : after.Counts
  requests : after.metrics.requests = before.metrics.requests + UInt64.ofNat requests
  tokens : after.metrics.tokens = before.metrics.tokens + UInt64.ofNat tokens

variable {before middle after : Collector}

theorem Counts.refl (hcounts : before.Counts) : before.Gains before 0 0 :=
  ⟨hcounts, (add_zero _).symm, (add_zero _).symm⟩

theorem Counts.record (hcounts : before.Counts) (event : Event) :
    before.Gains (before.record event) event.requests event.tokens := by
  obtain ⟨metrics, rfl⟩ := hcounts
  exact ⟨⟨_, rfl⟩, metrics.requests_record event, metrics.tokens_record event⟩

theorem Gains.trans {requests tokens moreRequests moreTokens : Nat}
    (hfirst : before.Gains middle requests tokens)
    (hsecond : middle.Gains after moreRequests moreTokens) :
    before.Gains after (requests + moreRequests) (tokens + moreTokens) where
  counts := hsecond.counts
  requests := by rw [hsecond.requests, hfirst.requests, UInt64.ofNat_add, add_assoc]
  tokens := by rw [hsecond.tokens, hfirst.tokens, UInt64.ofNat_add, add_assoc]

end Collector

namespace Engine

open Collector (Counts Gains)

variable {engine : Engine} {state : State} {visit : Visit} {stage : Stage} {request : Request}

/-- Served tokens count for one request, and new tokens besides. -/
theorem State.gains_recordServed (hcounts : state.collector.Counts) (served : Served) :
    state.collector.Gains (state.recordServed served).collector 1 served.newTokens := by
  unfold State.recordServed Served.newTokens
  cases served.outcome.isFresh with
  | false => exact hcounts.record (.lookup served.outcome)
  | true =>
    have hnew := hcounts.record (.generated .zero served.minted.tokens.length)
    exact hnew.trans (hnew.counts.record (.lookup served.outcome))

/-! ### Answers on the way -/

namespace Stage

/-- The request of a visitor that has not been answered yet. -/
def request? : Stage → Option Request
  | asking request => some request
  | generating _ request => some request
  | drawing _ request => some request
  | holding _ _ request => some request
  | waiting _ request => some request
  | answered _ | brokenDown => none

/-- The answer that the demand in hand gets when the visitor goes on. -/
def answer? (stage : Stage) (state : State) : Option (Except TokenError Served) :=
  match stage with
  | asking request =>
    match (state.cache.consult (request.demand.lookup request.now)).1 with
    | .served served => some (.ok served)
    | _ => none
  | holding guard result request =>
    some (state.cache.deliver (request.demand.lookup request.now) guard result).1
  | waiting generation _ => state.cache.await? generation
  | _ => none

/-- The tokens that a visitor gets when it goes on. -/
def obtained (stage : Stage) (state : State) : List Served :=
  match stage.answer? state with
  | some (.ok served) => [served]
  | _ => []

/-- A visitor that goes on is through already, or keeps its demand in hand and nothing is counted,
or the demand in hand is answered. -/
theorem advance_cases (engine : Engine) (stage : Stage) (state : State) :
    (stage.request? = none ∧ stage.answer? state = none ∧
      stage.advance engine state = (stage, state)) ∨
    (∃ request, stage.request? = some request ∧ stage.answer? state = none ∧
      (stage.advance engine state).1.request? = some request ∧
        (stage.advance engine state).2.collector = state.collector) ∨
    (∃ request answer after, stage.request? = some request ∧
      stage.answer? state = some answer ∧ after.collector = state.collector ∧
        stage.advance engine state = settle request answer after) := by
  cases stage with
  | asking request =>
    cases hconsult : state.cache.consult (request.demand.lookup request.now) with
    | mk told cache =>
      cases told with
      | served served =>
        refine .inr (.inr ⟨request, .ok served, { state with cache := cache }, rfl, ?_, rfl, ?_⟩)
        · simp only [answer?, hconsult]
        · simp only [advance, ask, hconsult]
      | wait generation =>
        exact .inr (.inl ⟨request, rfl, by simp [answer?, hconsult],
          by simp [advance, ask, hconsult, request?], by simp [advance, ask, hconsult]⟩)
      | generate guard =>
        exact .inr (.inl ⟨request, rfl, by simp [answer?, hconsult],
          by simp [advance, ask, hconsult, request?], by simp [advance, ask, hconsult]⟩)
  | generating guard request =>
    refine .inr (.inl ⟨request, rfl, rfl, ?_⟩)
    cases hvalid : request.demand.settings.validate <;>
      simp [advance, announce, hvalid, request?]
  | drawing draw request => exact .inr (.inl ⟨request, rfl, rfl, rfl, rfl⟩)
  | holding guard result request =>
    let delivered := state.cache.deliver (request.demand.lookup request.now) guard result
    let after := { state with cache := delivered.2 }
    exact .inr (.inr ⟨request, delivered.1, after, rfl, rfl, rfl, rfl⟩)
  | waiting generation request =>
    cases hanswer : state.cache.await? generation with
    | none =>
      exact .inr (.inl ⟨request, rfl, hanswer, by simp [advance, look, hanswer, request?],
        by simp [advance, look, hanswer]⟩)
    | some answer =>
      exact .inr (.inr ⟨request, answer, state, rfl, hanswer, rfl,
        by simp [advance, look, hanswer]⟩)
  | answered reply => exact .inl ⟨rfl, rfl, rfl⟩
  | brokenDown => exact .inl ⟨rfl, rfl, rfl⟩

/-! ### What a visitor counts for -/

/-- What a visitor has got at a stage, and how many requests it counts for. -/
inductive Billed (visit : Visit) : Stage → List Served → Nat → Prop
  | idle : Billed visit (answered (.ok none)) [] 1
  | emitted (emission : Emission) :
    Billed visit (answered (.ok (some emission)))
      ((emission.main :: emission.named).map EmittedTokens.served) (1 + emission.named.length)
  /-- The clock could not be read. -/
  | unread {error : TokenError} (hclock : visit.clock = .error error) :
    Billed visit (answered (.error error)) [] 0
  | failed (error : TokenError) (obtained : List Served) :
    Billed visit (answered (.error error)) obtained (obtained.length + 1)
  | underWay {stage : Stage} {request : Request} (hrequest : stage.request? = some request) :
    Billed visit stage (request.finished.map EmittedTokens.served) request.finished.length
  | brokenDown (obtained : List Served) : Billed visit brokenDown obtained obtained.length

theorem billed_next (visit : Visit) (now : Duration) (main : EmittedTokens)
    (named : List EmittedTokens) (demands : List Demand) :
    Billed visit (next now (main :: named) demands) ((main :: named).map EmittedTokens.served)
      (1 + named.length) := by
  cases demands with
  | nil => exact .emitted ⟨main, named⟩
  | cons demand pending =>
    rw [Nat.add_comm]
    have hrequest : (next now (main :: named) (demand :: pending)).request? =
        some ⟨now, main :: named, demand, pending⟩ := rfl
    exact .underWay hrequest

end Stage

/-- What the next steps of a visitor count for: its bill and the counters move by as much. -/
def BilledAfter (visit : Visit) (state : State) (obtained new : List Served) (requests : Nat)
    (next : Stage × State) : Prop :=
  ∃ more, Stage.Billed visit next.1 (obtained ++ new) (requests + more) ∧
    state.collector.Gains next.2.collector more (new.map Served.newTokens).sum

/-- A failure counts for one request, and tokens that were looked up count for one request too. -/
theorem billedAfter_settle (hcounts : state.collector.Counts) (visit : Visit) (request : Request)
    (answer : Except TokenError Served) :
    BilledAfter visit state (request.finished.map EmittedTokens.served) answer.toOption.toList
      request.finished.length (Stage.settle request answer state) := by
  refine ⟨1, ?_⟩
  cases answer with
  | error error =>
    refine ⟨?_, hcounts.record (.failed error)⟩
    have hfailed : Stage.Billed visit _ _ _ :=
      .failed error (request.finished.map EmittedTokens.served)
    rw [List.length_map] at hfailed
    simpa [Stage.settle, Except.toOption] using hfailed
  | ok served =>
    have hgains := State.gains_recordServed hcounts served
    refine ⟨?_, by simpa [Stage.settle, Except.toOption] using hgains⟩
    simp only [Stage.settle, Except.toOption, Option.toList_some]
    cases hfinished : request.finished with
    | nil =>
      exact Stage.billed_next visit request.now (request.demand.emitted served) [] request.pending
    | cons main named =>
      have hnext := Stage.billed_next visit request.now main
        (named ++ [request.demand.emitted served]) request.pending
      simpa [Demand.emitted, Nat.add_comm] using hnext

theorem Stage.obtained_eq_of_answer? {answer : Except TokenError Served}
    (hanswer : stage.answer? state = some answer) :
    stage.obtained state = answer.toOption.toList := by
  unfold obtained
  rw [hanswer]
  cases answer <;> rfl

theorem Stage.obtained_eq_nil (hanswer : stage.answer? state = none) :
    stage.obtained state = [] := by
  unfold obtained
  rw [hanswer]

theorem Stage.Billed.of_request? {obtained : List Served} {requests : Nat}
    (hbilled : stage.Billed visit obtained requests) (hrequest : stage.request? = some request) :
    obtained = request.finished.map EmittedTokens.served ∧
      requests = request.finished.length := by
  cases hbilled with
  | underWay hother =>
    obtain rfl := Option.some.inj (hother.symm.trans hrequest)
    exact ⟨rfl, rfl⟩
  | idle | emitted | unread | failed | brokenDown => simp [request?] at hrequest

/-- A visitor that goes on counts for what it gets. -/
theorem Stage.Billed.advance {obtained : List Served} {requests : Nat}
    (hcounts : state.collector.Counts) (hbilled : stage.Billed visit obtained requests) :
    BilledAfter visit state obtained (stage.obtained state) requests
      (stage.advance engine state) := by
  rcases stage.advance_cases engine state with ⟨-, hanswer, hadvance⟩ |
    ⟨request, hrequest, hanswer, hnext, hcollector⟩ |
    ⟨request, answer, after, hrequest, hanswer, hcollector, hadvance⟩
  · rw [hadvance, obtained_eq_nil hanswer]
    exact ⟨0, by simpa using hbilled, hcounts.refl⟩
  · rw [obtained_eq_nil hanswer]
    obtain ⟨rfl, rfl⟩ := hbilled.of_request? hrequest
    refine ⟨0, by simpa using .underWay hnext, ?_⟩
    rw [hcollector]
    exact hcounts.refl
  · rw [hadvance, obtained_eq_of_answer? hanswer]
    obtain ⟨rfl, rfl⟩ := hbilled.of_request? hrequest
    rw [← hcollector] at hcounts
    obtain ⟨more, hsettled, hgains⟩ := billedAfter_settle hcounts visit request answer
    exact ⟨more, hsettled, hcollector ▸ hgains⟩

/-- A visitor that breaks down counts for what it has got until then. -/
theorem Stage.Billed.breakDown {obtained : List Served} {requests : Nat}
    (hcounts : state.collector.Counts) (hbilled : stage.Billed visit obtained requests) :
    BilledAfter visit state obtained [] requests (stage.breakDown state) := by
  refine ⟨0, ?_⟩
  rw [List.append_nil]
  unfold Stage.breakDown
  cases hhold : stage.hold? with
  | none => exact ⟨hbilled, hcounts.refl⟩
  | some held =>
    have hrequest : stage.request? = some held.2 := by
      cases stage with
      | generating | drawing | holding => exact congrArg (Option.map Prod.snd) hhold
      | asking | waiting | answered | brokenDown => simp [hold?] at hhold
    obtain ⟨rfl, rfl⟩ := hbilled.of_request? hrequest
    refine ⟨?_, hcounts.refl⟩
    have hbroken : Stage.Billed visit _ _ _ :=
      .brokenDown (held.2.finished.map EmittedTokens.served)
    rwa [List.length_map] at hbroken

/-- A visitor that is let in has got nothing. It counts for one request if it is told at once that
no tokens are due. -/
theorem billedAfter_receive (hmemo : engine.Remembers state.resolutions)
    (hcounts : state.collector.Counts) (visit : Visit) :
    BilledAfter visit state [] [] 0 (engine.receive visit state) := by
  obtain ⟨path, clock⟩ := visit
  have hcollector := collector_resolve engine path state
  by_cases hidle : engine.Idle path
  · rw [hidle.receive hmemo clock]
    have hrecord : state.collector.Gains
        ((engine.resolve path state).2.collector.record .inactive) 1 0 := by
      rw [hcollector]
      exact hcounts.record .inactive
    exact ⟨1, .idle, hrecord⟩
  · obtain ⟨chain, settings, hdue⟩ := exists_due_of_not_idle hidle
    rw [(hdue clock).receive hmemo]
    cases clock with
    | error error => exact ⟨0, .unread rfl, hcollector ▸ hcounts.refl⟩
    | ok now =>
      have hrequest : (Stage.next now [] (Demand.ofChain chain settings)).request? =
          some ⟨now, [], _, _⟩ := rfl
      exact ⟨0, .underWay hrequest, hcollector ▸ hcounts.refl⟩

end Engine

namespace Service

open Engine (BilledAfter Stage State Visitor)

/-! ### The steps of one visitor -/

/-- The position of the visitor that takes a step. -/
def Step.visitor? (service : Service) : Step → Option Nat
  | .arrive _ => some service.visitors.length
  | .advance position | .breakDown position => some position
  | .act _ => none

/-- How far a step moves a counter. -/
def moved (engine : Engine) (counter : Metrics → UInt64) (service : Service) (step : Step) :
    UInt64 :=
  counter (service.after engine step).state.collector.metrics -
    counter service.state.collector.metrics

/-- The tokens that a visitor gets with a step. -/
def obtainedWith (service : Service) : Step → List Served
  | .advance position =>
    match service.visitors[position]? with
    | none => []
    | some visitor => visitor.stage.obtained service.state
  | _ => []

/-- How far the steps of one visitor move a counter. -/
def growth (engine : Engine) (counter : Metrics → UInt64) (position : Nat) :
    Service → List Step → UInt64
  | _, [] => 0
  | service, step :: rest =>
    (if step.visitor? service = some position then service.moved engine counter step else 0) +
      growth engine counter position (service.after engine step) rest

/-- The tokens that one visitor gets during several steps, in the order of its look-ups. -/
def obtained (engine : Engine) (position : Nat) : Service → List Step → List Served
  | _, [] => []
  | service, step :: rest =>
    (if step.visitor? service = some position then service.obtainedWith step else []) ++
      obtained engine position (service.after engine step) rest

variable {engine : Engine} {service : Service} {position : Nat}

theorem growth_append (counter : Metrics → UInt64) (service : Service)
    (first second : List Step) :
    growth engine counter position service (first ++ second) =
      growth engine counter position service first +
        growth engine counter position (service.afterAll engine first) second := by
  induction first generalizing service with
  | nil =>
    rw [List.nil_append, growth, zero_add]
    rfl
  | cons step rest ih =>
    rw [List.cons_append, growth, growth, ih, add_assoc]
    rfl

theorem growth_singleton (counter : Metrics → UInt64) (service : Service) (step : Step) :
    growth engine counter position service [step] =
      if step.visitor? service = some position then service.moved engine counter step else 0 := by
  rw [growth, growth, add_zero]

theorem obtained_concat (service : Service) (steps : List Step) (step : Step) :
    obtained engine position service (steps ++ [step]) =
      obtained engine position service steps ++
        if step.visitor? (service.afterAll engine steps) = some position then
          (service.afterAll engine steps).obtainedWith step
        else [] := by
  induction steps generalizing service with
  | nil =>
    rw [List.nil_append, obtained, obtained, obtained, List.append_nil, List.nil_append]
    rfl
  | cons first rest ih =>
    rw [List.cons_append, obtained, obtained, ih, List.append_assoc]
    rfl

/-- A step leaves other visitors where they are. -/
theorem getElem?_after_of_ne {step : Step} (hother : step.visitor? service ≠ some position) :
    (service.after engine step).visitors[position]? = service.visitors[position]? := by
  rcases @after_cases engine service step with hidle | ⟨visit, rfl, harrive⟩ |
    ⟨other, visit, stage, rfl, -, hadvance⟩ | ⟨other, visit, stage, rfl, -, hbreakDown⟩ |
    ⟨action, -, -, hact⟩
  · rw [hidle]
  · have hne : position ≠ service.visitors.length := fun heq ↦ hother (heq ▸ rfl)
    rw [harrive, enter, List.getElem?_append]
    split
    · rfl
    · rw [List.getElem?_eq_none (by simp; omega), List.getElem?_eq_none (by omega)]
  · have hne : other ≠ position := fun heq ↦ hother (heq ▸ rfl)
    rw [hadvance, move, List.getElem?_set_ne hne]
  · have hne : other ≠ position := fun heq ↦ hother (heq ▸ rfl)
    rw [hbreakDown, move, List.getElem?_set_ne hne]
  · rw [hact]

/-- An action that is no request counts nothing; it may set the counters back. -/
theorem collector_begin (engine : Engine) {action : Session.Action}
    (hrequest : isRequest action = false) (state : State) :
    (Session.begin engine action state).2.collector = state.collector ∨
      action = .resetMetrics ∧
        (Session.begin engine action state).2.collector = state.collector.reset := by
  cases action with
  | mint path => simp [isRequest] at hrequest
  | handle path => simp [isRequest] at hrequest
  | resolve path => exact .inl (Engine.collector_resolve engine path state)
  | stats => exact .inl rfl
  | setClock clock => exact .inl rfl
  | metrics => exact .inl rfl
  | resetMetrics => exact .inr ⟨rfl, rfl⟩
  | lookup lookup tokens signatures =>
    refine .inl ?_
    simp only [Session.begin, Session.lookupNow]
    cases state.cache.consult lookup with
    | mk told cache => cases told <;> rfl

/-! ### Everyone together -/

/-- Only visitors move counters, unless they are set back. -/
theorem sum_moved (engine : Engine) (counter : Metrics → UInt64) (service : Service) {step : Step}
    (hreset : step ≠ .act .resetMetrics) {bound : Nat}
    (hbound : (service.after engine step).visitors.length ≤ bound) :
    ∑ position ∈ Finset.range bound,
        (if step.visitor? service = some position then service.moved engine counter step else 0) =
      service.moved engine counter step := by
  have hnothing (hsame : (service.after engine step).state.collector = service.state.collector) :
      service.moved engine counter step = 0 := by
    rw [moved, hsame, sub_self]
  rcases @after_cases engine service step with hidle | ⟨visit, rfl, harrive⟩ |
    ⟨position, visit, stage, rfl, hvisitor, hadvance⟩ |
    ⟨position, visit, stage, rfl, hvisitor, hbreakDown⟩ | ⟨action, rfl, hrequest, hact⟩
  · simp [hnothing (by rw [hidle])]
  · have hlt : service.visitors.length < bound := by
      rw [harrive, enter, List.length_append] at hbound
      exact hbound
    simp [Step.visitor?, hlt]
  · have hlt : position < bound := by
      rw [hadvance, move, List.length_set] at hbound
      exact Nat.lt_of_lt_of_le (List.getElem?_eq_some_iff.1 hvisitor).1 hbound
    simp [Step.visitor?, hlt]
  · have hlt : position < bound := by
      rw [hbreakDown, move, List.length_set] at hbound
      exact Nat.lt_of_lt_of_le (List.getElem?_eq_some_iff.1 hvisitor).1 hbound
    simp [Step.visitor?, hlt]
  · rcases collector_begin engine hrequest service.state with hsame | ⟨rfl, -⟩
    · simp [Step.visitor?, hnothing (by rw [hact]; exact hsame)]
    · exact absurd rfl hreset

theorem length_le_afterAll (engine : Engine) (service : Service) (steps : List Step) :
    service.visitors.length ≤ (service.afterAll engine steps).visitors.length := by
  have hvisits := congrArg List.length (visits_afterAll engine service steps)
  simp only [List.length_map, List.length_append] at hvisits
  omega

/-- A counter that is not set back grows by what its visitors move it. -/
theorem sum_growth (counter : Metrics → UInt64) (service : Service) {steps : List Step}
    (hreset : .act .resetMetrics ∉ steps) :
    counter (service.afterAll engine steps).state.collector.metrics =
      counter service.state.collector.metrics +
        ∑ position ∈ Finset.range (service.afterAll engine steps).visitors.length,
          growth engine counter position service steps := by
  induction steps generalizing service with
  | nil => simp [growth]
  | cons step rest ih =>
    obtain ⟨hfirst, hrest⟩ := not_or.1 (mt List.mem_cons.2 hreset)
    have hmoved := sum_moved engine counter service (Ne.symm hfirst)
      (length_le_afterAll engine (service.after engine step) rest)
    rw [afterAll_cons, ih _ hrest]
    simp only [growth]
    rw [Finset.sum_add_distrib, hmoved, moved, ← add_assoc, add_sub_cancel]

/-! ### The share of each visitor -/

/-- What a visitor has got, and how far it has moved the counters of requests and of tokens, is what
it counts for; nobody has got or moved anything. -/
def Accounts (visitor? : Option Visitor) (got : List Served) (requests tokens : UInt64) : Prop :=
  match visitor? with
  | none => got = [] ∧ requests = 0 ∧ tokens = 0
  | some visitor => ∃ count, visitor.stage.Billed visitor.visit got count ∧
      requests = UInt64.ofNat count ∧ tokens = UInt64.ofNat (got.map Served.newTokens).sum

/-- A step that gains what it is billed for moves the counters as far. -/
theorem accounts_of_billedAfter {step : Step} {visit : Visit} {next : Stage × State}
    {got new : List Served} {count : Nat} {requests tokens : UInt64}
    (hnext : BilledAfter visit service.state got new count next)
    (hafter : (service.after engine step).state = next.2)
    (hrequests : requests = UInt64.ofNat count)
    (htokens : tokens = UInt64.ofNat (got.map Served.newTokens).sum) :
    Accounts (some ⟨visit, next.1⟩) (got ++ new)
      (requests + service.moved engine Metrics.requests step)
      (tokens + service.moved engine Metrics.tokens step) := by
  obtain ⟨more, hbilled, hgains⟩ := hnext
  refine ⟨count + more, hbilled, ?_, ?_⟩
  · rw [moved, hafter, hgains.requests, add_sub_cancel_left, hrequests, UInt64.ofNat_add]
  · rw [moved, hafter, hgains.tokens, add_sub_cancel_left, htokens, List.map_append,
      List.sum_append, UInt64.ofNat_add]

/-- A step of a visitor is billed to it. A step that is not due changes nothing. -/
theorem billedAfter_of_visitor? (hmemo : engine.Remembers service.state.resolutions)
    (hcounts : service.state.collector.Counts) {step : Step}
    (hown : step.visitor? service = some position) {got : List Served} {requests tokens : UInt64}
    (haccounts : Accounts service.visitors[position]? got requests tokens) :
    (service.after engine step = service ∧ service.obtainedWith step = []) ∨
    ∃ visit next count, (service.after engine step).visitors[position]? = some ⟨visit, next.1⟩ ∧
      (service.after engine step).state = next.2 ∧
        BilledAfter visit service.state got (service.obtainedWith step) count next ∧
          requests = UInt64.ofNat count ∧
            tokens = UInt64.ofNat (got.map Served.newTokens).sum := by
  cases step with
  | arrive visit =>
    obtain rfl := Option.some.inj hown
    rw [List.getElem?_eq_none (Nat.le_refl _)] at haccounts
    obtain ⟨rfl, rfl, rfl⟩ := haccounts
    refine .inr ⟨visit, engine.receive visit service.state, 0, ?_, rfl,
      Engine.billedAfter_receive hmemo hcounts visit, rfl, rfl⟩
    simp [after, enter]
  | advance other =>
    obtain rfl := Option.some.inj hown
    cases hvisitor : service.visitors[other]? with
    | none => exact .inl ⟨by simp only [after, hvisitor], by simp only [obtainedWith, hvisitor]⟩
    | some visitor =>
      rw [hvisitor] at haccounts
      obtain ⟨count, hbilled, hrequests, htokens⟩ := haccounts
      refine .inr ⟨visitor.visit, visitor.stage.advance engine service.state, count, ?_, ?_, ?_,
        hrequests, htokens⟩
      · simp only [after, hvisitor]
        exact List.getElem?_set_self (List.getElem?_eq_some_iff.1 hvisitor).1
      · simp only [after, hvisitor, move]
      · simp only [obtainedWith, hvisitor]
        exact hbilled.advance hcounts
  | breakDown other =>
    obtain rfl := Option.some.inj hown
    cases hvisitor : service.visitors[other]? with
    | none => exact .inl ⟨by simp only [after, hvisitor], rfl⟩
    | some visitor =>
      rw [hvisitor] at haccounts
      obtain ⟨count, hbilled, hrequests, htokens⟩ := haccounts
      refine .inr ⟨visitor.visit, visitor.stage.breakDown service.state, count, ?_, ?_,
        hbilled.breakDown hcounts, hrequests, htokens⟩
      · simp only [after, hvisitor]
        exact List.getElem?_set_self (List.getElem?_eq_some_iff.1 hvisitor).1
      · simp only [after, hvisitor, move]
  | act action => simp [Step.visitor?] at hown

/-- After several steps the collector still counts, and every visitor has its account. -/
structure Balanced (engine : Engine) (start : Service) (steps : List Step) : Prop where
  counts : (start.afterAll engine steps).state.collector.Counts
  accounts (position : Nat) : Accounts (start.afterAll engine steps).visitors[position]?
    (obtained engine position start steps) (growth engine Metrics.requests position start steps)
    (growth engine Metrics.tokens position start steps)

theorem afterAll_concat (engine : Engine) (start : Service) (steps : List Step) (step : Step) :
    start.afterAll engine (steps ++ [step]) = (start.afterAll engine steps).after engine step := by
  rw [afterAll_append]
  rfl

theorem Balanced.concat {start : Service} {steps : List Step}
    (hmemo : engine.Remembers (start.afterAll engine steps).state.resolutions)
    (hbalanced : Balanced engine start steps) (step : Step) :
    Balanced engine start (steps ++ [step]) := by
  obtain ⟨hcounts, haccounts⟩ := hbalanced
  constructor
  · rw [afterAll_concat]
    cases hown : step.visitor? (start.afterAll engine steps) with
    | none =>
      cases step with
      | arrive | advance | breakDown => simp [Step.visitor?] at hown
      | act action =>
        simp only [after]
        split
        next => exact hcounts
        next hrequest =>
          rcases collector_begin engine (Bool.eq_false_iff.2 hrequest)
            (start.afterAll engine steps).state with hsame | ⟨-, hreset⟩
          · exact hsame ▸ hcounts
          · obtain ⟨metrics, hmetrics⟩ := hcounts
            exact ⟨.zero, by rw [hreset, hmetrics, Collector.reset]⟩
    | some position =>
      rcases billedAfter_of_visitor? hmemo hcounts hown (haccounts position) with ⟨hsame, -⟩ |
        ⟨visit, next, count, -, hafter, ⟨more, -, hgains⟩, -⟩
      · rw [hsame]
        exact hcounts
      · rw [hafter]
        exact hgains.counts
  · intro position
    rw [afterAll_concat, obtained_concat, growth_append, growth_append, growth_singleton,
      growth_singleton]
    by_cases hown : step.visitor? (start.afterAll engine steps) = some position
    · simp only [hown, if_true]
      rcases billedAfter_of_visitor? hmemo hcounts hown (haccounts position) with
        ⟨hsame, hnothing⟩ | ⟨visit, next, count, hvisitor, hafter, hnext, hrequests, htokens⟩
      · simpa only [hsame, hnothing, moved, sub_self, add_zero, List.append_nil]
          using haccounts position
      · rw [hvisitor]
        exact accounts_of_billedAfter hnext hafter hrequests htokens
    · simp only [hown, if_false, add_zero, List.append_nil]
      rw [getElem?_after_of_ne hown]
      exact haccounts position

/-- In a run with a collector that counts, every visitor has its account. -/
theorem balanced_run (engine : Engine) (policy : Policy) (clock : Except TokenError Duration)
    (metrics : Metrics) (steps : List Step) :
    Balanced engine (initial policy clock (.counting metrics)) steps := by
  induction steps using List.reverseRecOn with
  | nil => exact ⟨⟨metrics, rfl⟩, fun _ ↦ ⟨rfl, rfl, rfl⟩⟩
  | append_singleton steps step ih =>
    exact ih.concat (remembers_run engine policy clock (.counting metrics) steps) step

/-! ### Requests that nothing overlaps -/

/-- A visitor that goes on alone moves a counter to where it stands then. -/
theorem growth_replicate (counter : Metrics → UInt64) (service : Service) (count : Nat) :
    growth engine counter position service (List.replicate count (.advance position)) =
      counter (service.afterAll engine
        (List.replicate count (.advance position))).state.collector.metrics -
          counter service.state.collector.metrics := by
  induction count generalizing service with
  | zero => exact (sub_self _).symm
  | succ count ih =>
    have hown : Step.visitor? service (.advance position) = some position := rfl
    rw [List.replicate_succ, growth, if_pos hown, ih, afterAll_cons, moved, sub_add_sub_cancel']

/-- A request that nothing overlaps is one more visitor, and moves the counters by its share. -/
theorem exists_steps_of_mint (engine : Engine) (policy : Policy)
    (clock : Except TokenError Duration) (metrics : Metrics) (steps : List Step)
    (path : String) :
    let start := initial policy clock (.counting metrics)
    let service := start.afterAll engine steps
    let minted := engine.mint path service.state
    let position := service.visitors.length
    ∃ more, start.afterAll engine (steps ++ more) =
        service.enter ⟨path, service.state.clock⟩ (Stage.ofResult minted) ∧
      minted.2.collector.metrics.requests = service.state.collector.metrics.requests +
        growth engine Metrics.requests position start (steps ++ more) ∧
      minted.2.collector.metrics.tokens = service.state.collector.metrics.tokens +
        growth engine Metrics.tokens position start (steps ++ more) := by
  intro start service minted position
  obtain ⟨count, hleads⟩ := leads_mint engine service path
  let arrival : Step := .arrive ⟨path, service.state.clock⟩
  let more : List Step := arrival :: List.replicate count (.advance position)
  have hafter : service.afterAll engine more =
      service.enter ⟨path, service.state.clock⟩ (Stage.ofResult minted) := hleads
  have hshare (counter : Metrics → UInt64)
      (hbefore : growth engine counter position start steps = 0) :
      counter minted.2.collector.metrics = counter service.state.collector.metrics +
        growth engine counter position start (steps ++ more) := by
    have hmoved : growth engine counter position service more =
        counter minted.2.collector.metrics - counter service.state.collector.metrics := by
      have hown : arrival.visitor? service = some position := rfl
      rw [growth, if_pos hown, growth_replicate, moved, sub_add_sub_cancel', ← afterAll_cons,
        hafter]
      rfl
    rw [growth_append, hbefore, zero_add, hmoved, add_sub_cancel]
  -- Nobody has come in at this position before.
  have hnobody := (balanced_run engine policy clock metrics steps).accounts position
  rw [List.getElem?_eq_none (Nat.le_refl _)] at hnobody
  obtain ⟨-, hrequests, htokens⟩ := hnobody
  refine ⟨more, ?_, hshare _ hrequests, hshare _ htokens⟩
  rw [afterAll_append]
  exact hafter

end Service

/-- The requests that a visitor counts for, given the tokens it has got: one if none are due, and
else one for each of its look-ups that was answered, and one for its failure. -/
def Engine.Visitor.requests (visitor : Engine.Visitor) (obtained : List Served) : Nat :=
  match visitor.stage with
  | .answered (.ok none) => 1
  | .answered (.ok (some emission)) => 1 + emission.named.length
  | .answered (.error _) => 1 + obtained.length
  | _ => obtained.length

/-- A visitor is billed for as much, unless it failed because its clock could not be read. -/
theorem Engine.Stage.Billed.eq_requests {visitor : Engine.Visitor} {obtained : List Served}
    {count : Nat} (hbilled : visitor.stage.Billed visitor.visit obtained count)
    (hclock : ∀ error, visitor.stage = .answered (.error error) →
      ∃ now, visitor.visit.clock = .ok now) : count = visitor.requests obtained := by
  obtain ⟨visit, stage⟩ := visitor
  cases hbilled with
  | idle => rfl
  | emitted emission => rfl
  | unread herror =>
    obtain ⟨now, hnow⟩ := hclock _ rfl
    exact absurd (herror.symm.trans hnow) (by simp)
  | failed error => exact Nat.add_comm _ _
  | brokenDown => rfl
  | underWay hrequest =>
    cases stage with
    | answered | brokenDown => simp [request?] at hrequest
    | asking | generating | drawing | holding | waiting => simp [Visitor.requests]

theorem Engine.Stage.Billed.eq_of_emitted {visit : Visit} {emission : Emission}
    {obtained : List Served} {count : Nat}
    (hbilled : (answered (.ok (some emission))).Billed visit obtained count) :
    obtained = (emission.main :: emission.named).map EmittedTokens.served := by
  cases hbilled with
  | emitted => rfl
  | underWay hrequest => simp [request?] at hrequest

namespace Service

/-- Requests are counted, whatever they come to, unless they are due tokens when the clock cannot be
read. In any run, a visitor that is told that no tokens are due has moved the counter of requests by
one, a visitor that is emitted tokens by one and the number of its named tokens, and a visitor that
failed by one and the number of its look-ups that were answered before. It has moved the counter of
tokens by the number of those that it generated itself. Both counters show what the visitors have
moved them by. A request that nothing overlaps is a visitor, too: what the counters show after it
differs from what they showed before by its share. -/
theorem requests_accounted (engine : Engine) (policy : Policy)
    (clock : Except TokenError Duration) (metrics : Metrics) (steps : List Step) :
    let start := initial policy clock (.counting metrics)
    let service := start.afterAll engine steps
    (∀ position visitor, service.visitors[position]? = some visitor →
      let got := obtained engine position start steps
      ((∀ error, visitor.stage = .answered (.error error) →
          ∃ now, visitor.visit.clock = .ok now) →
        growth engine Metrics.requests position start steps =
          UInt64.ofNat (visitor.requests got)) ∧
      growth engine Metrics.tokens position start steps =
        UInt64.ofNat (got.map Served.newTokens).sum ∧
      ∀ emission, visitor.stage = .answered (.ok (some emission)) →
        got = (emission.main :: emission.named).map EmittedTokens.served) ∧
    (.act .resetMetrics ∉ steps →
      ∀ counter : Metrics → UInt64, counter service.state.collector.metrics =
        counter metrics + ∑ position ∈ Finset.range service.visitors.length,
          growth engine counter position start steps) ∧
    ∀ path, let minted := engine.mint path service.state
      let position := service.visitors.length
      ∃ more, start.afterAll engine (steps ++ more) =
          service.enter ⟨path, service.state.clock⟩ (Engine.Stage.ofResult minted) ∧
        minted.2.collector.metrics.requests = service.state.collector.metrics.requests +
          growth engine Metrics.requests position start (steps ++ more) ∧
        minted.2.collector.metrics.tokens = service.state.collector.metrics.tokens +
          growth engine Metrics.tokens position start (steps ++ more) := by
  intro start service
  refine ⟨fun position visitor hvisitor ↦ ?_,
    fun hreset counter ↦ sum_growth counter start hreset,
    exists_steps_of_mint engine policy clock metrics steps⟩
  have haccounts := (balanced_run engine policy clock metrics steps).accounts position
  rw [hvisitor] at haccounts
  obtain ⟨count, hbilled, hrequests, htokens⟩ := haccounts
  refine ⟨fun hclock ↦ ?_, htokens, fun emission hemission ↦ ?_⟩
  · rw [hrequests, hbilled.eq_requests hclock]
  · rw [hemission] at hbilled
    exact hbilled.eq_of_emitted

/-- The steps of a visitor and of another one that no scope covers. -/
def pairOfVisits : List Step :=
  .arrive ⟨"/", .ok .zero⟩ :: .arrive ⟨"", .ok .zero⟩ :: List.replicate 8 (.advance 0)

/-- A visitor whose second draw fails counts for two requests, one for the tokens that it got and
one for its failure, and a visitor without a scope for one. -/
theorem requests_accounted_failing_draw :
    let engine := Engine.withToken 4 (.cyclic [1] [2])
    let start := initial .serveStale (.ok .zero) (.counting .zero)
    let service := start.afterAll engine pairOfVisits
    (service.visitors.map fun visitor ↦ visitor.stage.reply?) =
        [some (.error (.entropyUnavailable "fill 2 failed")), some (.ok none)] ∧
      growth engine Metrics.requests 0 start pairOfVisits = 2 ∧
        growth engine Metrics.requests 1 start pairOfVisits = 1 ∧
          service.state.collector.metrics.requests = 3 := by
  intro engine start service
  obtain ⟨hvisitors, htotal, -⟩ :=
    requests_accounted engine .serveStale (.ok .zero) .zero pairOfVisits
  have hreadable : ∀ visitor ∈ service.visitors, visitor.visit.clock = .ok .zero := by
    decide +kernel
  have hgrowth : ∀ position count,
      (service.visitors[position]?.map fun visitor ↦
        visitor.requests (obtained engine position start pairOfVisits)) = some count →
      growth engine Metrics.requests position start pairOfVisits = UInt64.ofNat count := by
    intro position count hcount
    obtain ⟨visitor, hvisitor, rfl⟩ := Option.map_eq_some_iff.1 hcount
    exact (hvisitors position visitor hvisitor).1 fun _ _ ↦
      ⟨.zero, hreadable visitor (List.mem_of_getElem? hvisitor)⟩
  have hfirst := hgrowth 0 2 (by decide +kernel)
  have hsecond := hgrowth 1 1 (by decide +kernel)
  refine ⟨by decide +kernel, hfirst, hsecond, ?_⟩
  have htwo : service.visitors.length = 2 := by decide +kernel
  rw [htotal (by simp [pairOfVisits]) Metrics.requests, htwo, Finset.sum_range_succ,
    Finset.sum_range_one, hfirst, hsecond]
  rfl

/-- A request that is due tokens fails because the clock cannot be read, and counts for nothing. -/
theorem unreadable_clock_uncounted :
    let engine := Engine.withToken 4 (.cyclic [1] [])
    let state := .initial .blockUntilPublished (.error (.clock "broken")) (.counting .zero)
    (Engine.Stage.ofProgress (engine.mint "/" state).1).reply? = some (.error (.clock "broken")) ∧
      (engine.mint "/" state).2.collector.metrics.requests = 0 := by
  decide +kernel

end Service

end TokenMint
