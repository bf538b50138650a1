import TokenMint.Engine.Session
import TokenMint.Proofs.Engine.Plain

/-!
# An engine at the service of many visitors

Requests overlap, and so do their parts: a visitor is told something by the cache, others come and
go, and only then it announces a draw, takes the bytes, delivers its tokens and turns to its next
demand. A `Service` is the state of an engine together with all its visitors and how far each of
them has come (`Engine.Stage`). A `Service.Step` is the least that can happen: a visitor arrives, a
visitor goes on by one stage, a visitor breaks down while it generates, or something else is done
with the engine. Steps come in any order, and one that is not due changes nothing.
`Service.run` is the service after a list of steps, and so every state that overlapping requests can
lead to is the state of some run.
-/

set_option autoImplicit false
set_option relaxedAutoImplicit false

namespace TokenMint

namespace Engine

/-- How far a visitor has come. -/
inductive Stage where
  /-- It is about to ask the cache for its demand in hand. -/
  | asking (request : Request)
  /-- It has been told to generate. -/
  | generating (guard : Option Guard) (request : Request)
  /-- It has announced a draw. -/
  | drawing (draw : Draw) (request : Request)
  /-- It has generated tokens or failed to, and not delivered them yet. -/
  | holding (guard : Option Guard) (result : Except TokenError Minted) (request : Request)
  | waiting (generation : Nat) (request : Request)
  | answered (reply : Reply)
  /-- It broke down while it was generating. -/
  | brokenDown

namespace Stage

/-- The stage of a request whose demands have been answered but for those given. -/
def next (now : Duration) (finished : List EmittedTokens) : List Demand → Stage
  | [] => answered (.ok (emission? finished))
  | demand :: pending => asking ⟨now, finished, demand, pending⟩

/-- The stage after the demand in hand has been answered. -/
def settle (request : Request) (answer : Except TokenError Served) (state : State) :
    Stage × State :=
  match answer with
  | .error error => (answered (.error error), state.recordFailure request.demand.key error)
  | .ok served =>
    (next request.now (request.finished ++ [request.demand.emitted served]) request.pending,
      state.recordServed served)

/-- The stage after the cache has been asked. -/
def ask (request : Request) (state : State) : Stage × State :=
  let lookup := request.demand.lookup request.now
  match state.cache.consult lookup with
  | (.served served, cache) => settle request (.ok served) { state with cache := cache }
  | (.wait generation, cache) => (waiting generation request, { state with cache := cache })
  | (.generate guard, cache) => (generating guard request, { state with cache := cache })

/-- The stage after a draw has been announced, unless the settings are refused. -/
def announce (guard : Option Guard) (request : Request) (state : State) : Stage × State :=
  match request.demand.settings.validate with
  | .error fault => (holding guard (.error (.ofFault fault)) request, state)
  | .ok () =>
    let (number, entropy) := state.entropy.announce request.demand.settings.bytesPerDraw
    (drawing ⟨number, guard⟩ request, { state with entropy := entropy })

/-- The stage after the announced bytes have been taken and made into tokens. -/
def take (engine : Engine) (draw : Draw) (request : Request) (state : State) : Stage × State :=
  let settings := request.demand.settings
  let (bytes, entropy) := engine.source.draw draw.number settings.bytesPerDraw state.entropy
  (holding draw.guard (bytes.bind (settings.assemble request.demand.key request.now)) request,
    { state with entropy := entropy })

/-- The stage after the result has been delivered. -/
def deliver (guard : Option Guard) (result : Except TokenError Minted) (request : Request)
    (state : State) : Stage × State :=
  let (answer, cache) := state.cache.deliver (request.demand.lookup request.now) guard result
  settle request answer { state with cache := cache }

/-- The stage after a look at the verdict. -/
def look (generation : Nat) (request : Request) (state : State) : Stage × State :=
  match state.cache.await? generation with
  | none => (waiting generation request, state)
  | some answer => settle request answer state

/-- The stage that follows. -/
def advance (engine : Engine) (stage : Stage) (state : State) : Stage × State :=
  match stage with
  | asking request => ask request state
  | generating guard request => announce guard request state
  | drawing draw request => take engine draw request state
  | holding guard result request => deliver guard result request state
  | waiting generation request => look generation request state
  | answered reply => (answered reply, state)
  | brokenDown => (brokenDown, state)

/-- How far a request has come, as a stage. -/
def ofProgress : Progress → Stage
  | .answered reply => answered reply
  | .drawing draw request => drawing draw request
  | .waiting generation request => waiting generation request

/-- The reply, once there is one. -/
def reply? : Stage → Option Reply
  | answered reply => some reply
  | _ => none

theorem eq_answered_of_reply? {stage : Stage} {reply : Reply}
    (hreply : stage.reply? = some reply) : stage = answered reply := by
  cases stage with
  | answered other => exact congrArg answered (Option.some.inj hreply)
  | asking | generating | drawing | holding | waiting | brokenDown => simp [reply?] at hreply

/-- What a visitor that is generating holds, and its request. -/
def hold? : Stage → Option (Option Guard × Request)
  | generating guard request => some (guard, request)
  | drawing draw request => some (draw.guard, request)
  | holding guard _ request => some (guard, request)
  | _ => none

/-- The stage after a breakdown, which can only happen while tokens are generated. -/
def breakDown (stage : Stage) (state : State) : Stage × State :=
  match stage.hold? with
  | none => (stage, state)
  | some (guard, request) =>
    (brokenDown,
      { state with cache := state.cache.abandon (request.demand.lookup request.now) guard })

end Stage

/-- A visitor, and how far it has come. -/
structure Visitor where
  visit : Visit
  stage : Stage

/-- Lets a visitor in: the path is resolved, and the clock is read if tokens are due. -/
def receive (engine : Engine) (visit : Visit) (state : State) : Stage × State :=
  match engine.resolve visit.path state with
  | (.error error, state) =>
    if error.isInactive then (.answered (.ok none), state.record .inactive)
    else (.answered (.error error), state)
  | (.ok (chain, settings), state) =>
    if settings.admits visit.path then
      match state.readClock visit.clock with
      | (.error error, state) => (.answered (.error error), state)
      | (.ok now, state) => (.next now [] (Demand.ofChain chain settings), state)
    else (.answered (.ok none), state.record .inactive)

end Engine

open Engine (Stage Visitor State)

/-- The state of an engine and its visitors, in the order of their arrival. -/
structure Service where
  state : State
  visitors : List Visitor

namespace Service

/-- The least that can happen. Visitors are known by their positions. -/
inductive Step where
  | arrive (visit : Visit)
  | advance (position : Nat)
  | breakDown (position : Nat)
  /-- Something is done with the engine that asks for no tokens of a path. -/
  | act (action : Session.Action)

/-- Whether an action asks for the tokens of a path. -/
def isRequest : Session.Action → Bool
  | .mint _ | .handle _ => true
  | _ => false

/-- Whether an action puts tokens into the cache that the engine has not minted. -/
def isForeign : Session.Action → Bool
  | .lookup _ _ _ => true
  | _ => false

/-- The service before anyone has come. -/
def initial (policy : Policy) (clock : Except TokenError Duration) (collector : Collector) :
    Service :=
  ⟨.initial policy clock collector, []⟩

/-- The service with a further visitor. -/
def enter (service : Service) (visit : Visit) (next : Stage × State) : Service :=
  ⟨next.2, service.visitors ++ [⟨visit, next.1⟩]⟩

/-- The service in which a visitor stands as given. -/
def move (service : Service) (position : Nat) (visit : Visit) (next : Stage × State) : Service :=
  ⟨next.2, service.visitors.set position ⟨visit, next.1⟩⟩

/-- The service after a step. -/
def after (engine : Engine) (service : Service) : Step → Service
  | .arrive visit => service.enter visit (engine.receive visit service.state)
  | .advance position =>
    match service.visitors[position]? with
    | none => service
    | some ⟨visit, stage⟩ => service.move position visit (stage.advance engine service.state)
  | .breakDown position =>
    match service.visitors[position]? with
    | none => service
    | some ⟨visit, stage⟩ => service.move position visit (stage.breakDown service.state)
  | .act action =>
    if isRequest action then service
    else { service with state := (Session.begin engine action service.state).2 }

/-- The service after several steps. -/
def afterAll (engine : Engine) (service : Service) (steps : List Step) : Service :=
  steps.foldl (after engine) service

/-- The service of an engine that has not been used, after several steps. -/
def run (engine : Engine) (policy : Policy) (clock : Except TokenError Duration)
    (collector : Collector) (steps : List Step) : Service :=
  (initial policy clock collector).afterAll engine steps

variable {engine : Engine}

@[simp]
theorem afterAll_nil (service : Service) : service.afterAll engine [] = service := rfl

theorem afterAll_cons (service : Service) (step : Step) (steps : List Step) :
    service.afterAll engine (step :: steps) = (service.after engine step).afterAll engine steps :=
  rfl

theorem afterAll_append (service : Service) (first second : List Step) :
    service.afterAll engine (first ++ second) =
      (service.afterAll engine first).afterAll engine second :=
  List.foldl_append

theorem after_arrive (service : Service) (visit : Visit) :
    service.after engine (.arrive visit) =
      service.enter visit (engine.receive visit service.state) := rfl

/-- A step changes nothing, or someone arrives, goes on or breaks down, or an action is taken that
is no request. -/
theorem after_cases (service : Service) (step : Step) :
    service.after engine step = service ∨
    (∃ visit, step = .arrive visit ∧
      service.after engine step = service.enter visit (engine.receive visit service.state)) ∨
    (∃ position visit stage, step = .advance position ∧
      service.visitors[position]? = some ⟨visit, stage⟩ ∧
        service.after engine step =
          service.move position visit (stage.advance engine service.state)) ∨
    (∃ position visit stage, step = .breakDown position ∧
      service.visitors[position]? = some ⟨visit, stage⟩ ∧
        service.after engine step = service.move position visit (stage.breakDown service.state)) ∨
    (∃ action, step = .act action ∧ isRequest action = false ∧
      service.after engine step =
        { service with state := (Session.begin engine action service.state).2 }) := by
  cases step with
  | arrive visit => exact .inr (.inl ⟨visit, rfl, rfl⟩)
  | advance position =>
    simp only [after]
    split
    next => exact .inl rfl
    next visit stage hvisitor =>
      exact .inr (.inr (.inl ⟨position, visit, stage, rfl, hvisitor, rfl⟩))
  | breakDown position =>
    simp only [after]
    split
    next => exact .inl rfl
    next visit stage hvisitor =>
      exact .inr (.inr (.inr (.inl ⟨position, visit, stage, rfl, hvisitor, rfl⟩)))
  | act action =>
    simp only [after]
    split
    next => exact .inl rfl
    next hrequest =>
      exact .inr (.inr (.inr (.inr ⟨action, rfl, Bool.eq_false_iff.2 hrequest, rfl⟩)))

/-! ### Who has come -/

/-- The visits that begin with a step. -/
def Step.visits : Step → List Visit
  | .arrive visit => [visit]
  | _ => []

theorem visits_move {service : Service} {position : Nat} {visit : Visit} {stage : Stage}
    (hvisitor : service.visitors[position]? = some ⟨visit, stage⟩) (next : Stage × State) :
    (service.move position visit next).visitors.map Visitor.visit =
      service.visitors.map Visitor.visit := by
  have hvisit : (service.visitors.map Visitor.visit)[position]? = some visit := by
    rw [List.getElem?_map, hvisitor]
    rfl
  obtain ⟨hlt, rfl⟩ := List.getElem?_eq_some_iff.1 hvisit
  rw [move, List.map_set]
  exact List.set_getElem_self hlt

theorem visits_after (engine : Engine) (service : Service) (step : Step) :
    (service.after engine step).visitors.map Visitor.visit =
      service.visitors.map Visitor.visit ++ step.visits := by
  cases step with
  | arrive visit => simp [after, enter, Step.visits]
  | advance position =>
    simp only [after, Step.visits, List.append_nil]
    split
    next => rfl
    next hvisitor => exact visits_move hvisitor _
  | breakDown position =>
    simp only [after, Step.visits, List.append_nil]
    split
    next => rfl
    next hvisitor => exact visits_move hvisitor _
  | act action =>
    simp only [after, Step.visits, List.append_nil]
    split <;> rfl

theorem visits_afterAll (engine : Engine) (service : Service) (steps : List Step) :
    (service.afterAll engine steps).visitors.map Visitor.visit =
      service.visitors.map Visitor.visit ++ steps.flatMap Step.visits := by
  induction steps generalizing service with
  | nil => simp
  | cons step rest ih =>
    rw [afterAll_cons, ih, visits_after, List.append_assoc, List.flatMap_cons]

/-- Everyone who is there has arrived. -/
theorem arrive_mem_of_mem_run {policy : Policy} {clock : Except TokenError Duration}
    {collector : Collector} {steps : List Step} {visitor : Visitor}
    (hvisitor : visitor ∈ (run engine policy clock collector steps).visitors) :
    .arrive visitor.visit ∈ steps := by
  have hvisits := visits_afterAll engine (initial policy clock collector) steps
  have hmem : visitor.visit ∈ steps.flatMap Step.visits := by
    rw [← List.nil_append (steps.flatMap Step.visits)]
    exact hvisits ▸ List.mem_map.2 ⟨visitor, hvisitor, rfl⟩
  obtain ⟨step, hstep, hvisit⟩ := List.mem_flatMap.1 hmem
  cases step with
  | arrive visit =>
    obtain rfl := List.mem_singleton.1 hvisit
    exact hstep
  | advance | breakDown | act => simp [Step.visits] at hvisit

end Service

end TokenMint
