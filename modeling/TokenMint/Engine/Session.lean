import TokenMint.Engine.Request

/-!
# Sessions

A session is a list of steps that an engine is taken through. A step is an action, and a request may
have further actions that come along while it draws its first bytes: they are started in order once
the draw has been announced, each runs until it is done or has to wait, and those that wait are
resumed in order after the request is answered. `Session.run` gives the reports of all steps.
-/

set_option autoImplicit false
set_option relaxedAutoImplicit false

namespace TokenMint.Session

open Engine (Progress State)

/-- What is done with an engine. -/
inductive Action where
  /-- Asks for the tokens of a path. -/
  | mint (path : String)
  /-- Asks for the tokens of a path and writes them out. -/
  | handle (path : String)
  /-- Asks which settings apply to a path. -/
  | resolve (path : String)
  /-- Asks what is kept at present. -/
  | stats
  /-- Sets the clock. -/
  | setClock (clock : Except TokenError Duration)
  /-- Looks tokens up that take no effort to generate. -/
  | lookup (lookup : Lookup) (tokens signatures : List String)
  /-- Asks for the counters. -/
  | metrics
  /-- Sets the counters back. -/
  | resetMetrics

/-- What an action comes to. -/
inductive Answer where
  | minted (reply : Engine.Reply)
  | handled (written : Except TokenError Bool) (assignments : List Assignment)
  | resolved (resolved : Except TokenError (Chain × Settings))
  | stats (stats : Except TokenError Cache.Stats)
  | clockSet
  | served (served : Except TokenError Served)
  | metrics (metrics : Metrics)
  | metricsReset

/-- How far an action has come. -/
inductive Activity where
  | done (answer : Answer)
  /-- A request, and whether its tokens will be written out. -/
  | request (writes : Bool) (progress : Progress)
  /-- A look-up that waits. -/
  | lookup (generation : Nat)

namespace Activity

/-- The answer of a request. -/
def answerOf (writes : Bool) (reply : Engine.Reply) : Answer :=
  if writes then
    let (written, assignments) := Engine.handle reply
    .handled written assignments
  else .minted reply

/-- An activity that is a request, which is done once it is answered. -/
def ofProgress (writes : Bool) : Progress → Activity
  | .answered reply => done (answerOf writes reply)
  | progress => request writes progress

/-- The answer, once there is one. -/
def answer? : Activity → Option Answer
  | done answer => some answer
  | _ => none

/-- Whether the activity is about to draw bytes. -/
def isDrawing : Activity → Bool
  | request _ (.drawing _ _) => true
  | _ => false

end Activity

/-- Asks a cache for tokens and generates them at once if need be. -/
def lookupNow (lookup : Lookup) (minted : Minted) (state : State) : Activity × State :=
  match state.cache.consult lookup with
  | (.served served, cache) => (.done (.served (.ok served)), { state with cache := cache })
  | (.wait generation, cache) => (.lookup generation, { state with cache := cache })
  | (.generate guard, cache) =>
    let (answer, cache) := cache.deliver lookup guard (.ok minted)
    (.done (.served answer), { state with cache := cache })

/-- Starts an action. A request goes as far as its first draw. -/
def begin (engine : Engine) (action : Action) (state : State) : Activity × State :=
  match action with
  | .mint path =>
    let (progress, state) := engine.start path state
    (.ofProgress false progress, state)
  | .handle path =>
    let (progress, state) := engine.start path state
    (.ofProgress true progress, state)
  | .resolve path =>
    let (resolved, state) := engine.resolve path state
    (.done (.resolved resolved), state)
  | .stats =>
    let (now, state) := state.readClock state.clock
    (.done (.stats (now.map state.cache.stats)), state)
  | .setClock clock => (.done .clockSet, { state with clock := clock })
  | .lookup lookup tokens signatures => lookupNow lookup ⟨tokens, signatures, lookup.now⟩ state
  | .metrics => (.done (.metrics state.collector.metrics), state)
  | .resetMetrics => (.done .metricsReset, { state with collector := state.collector.reset })

/-- Runs an activity until it is done or has to wait. -/
def advance (engine : Engine) (activity : Activity) (state : State) : Activity × State :=
  match activity with
  | .request writes progress =>
    let (progress, state) := engine.advance progress state
    (.ofProgress writes progress, state)
  | activity => (activity, state)

/-- Goes on with an activity that had to wait, until it is done or has to wait again. -/
def resume (engine : Engine) (activity : Activity) (state : State) : Activity × State :=
  match activity with
  | .request writes (.waiting generation request) =>
    let (progress, state) := Engine.continueWait generation request state
    advance engine (.request writes progress) state
  | .lookup generation =>
    match state.cache.await? generation with
    | some answer => (.done (.served answer), state)
    | none => (.lookup generation, state)
  | activity => (activity, state)

/-- Does something with every member of a list in order. -/
def runAll {α β : Type} (run : α → State → β × State) : List α → State → List β × State
  | [], state => ([], state)
  | item :: rest, state =>
    let (result, state) := run item state
    let (results, state) := runAll run rest state
    (result :: results, state)

/-- Runs an action until it is done or has to wait. -/
def perform (engine : Engine) (action : Action) (state : State) : Activity × State :=
  let (activity, state) := begin engine action state
  advance engine activity state

/-- An action and those that come along while it draws its first bytes. -/
structure Step where
  action : Action
  during : List Action

/-- What came of an action that came along: whether it had to wait, and its answer. -/
structure Companion where
  waited : Bool
  answer : Option Answer

/-- What came of a step, and the notices that it caused. -/
structure Report where
  answer : Option Answer
  during : List Companion
  notices : List Notice

/-- What came of an activity that was in one state before it was resumed and is in another after. -/
def companionOf (before after : Activity) : Companion :=
  ⟨before.answer?.isNone, after.answer?⟩

/-- Takes an engine through one step. -/
def runStep (engine : Engine) (step : Step) (state : State) : Report × State :=
  let (activity, begun) := begin engine step.action state
  let (started, along) :=
    if activity.isDrawing then runAll (perform engine) step.during begun else ([], begun)
  let (finished, answered) := advance engine activity along
  let (resumed, after) := runAll (resume engine) started answered
  (⟨finished.answer?, List.zipWith companionOf started resumed,
    after.notices.drop state.notices.length⟩, after)

/-- Takes an engine through all steps in order. -/
def run (engine : Engine) (steps : List Step) (state : State) : List Report × State :=
  runAll (runStep engine) steps state

/-! ### Actions that nothing comes along with -/

theorem advance_ofProgress (engine : Engine) (writes : Bool) (progress : Engine.Progress)
    (state : State) :
    advance engine (.ofProgress writes progress) state =
      (.ofProgress writes (engine.advance progress state).1,
        (engine.advance progress state).2) := by
  cases progress <;> rfl

/-- A request that is performed is run until it is answered or has to wait. -/
theorem perform_mint (engine : Engine) (path : String) (state : State) :
    perform engine (.mint path) state =
      (.ofProgress false (engine.mint path state).1, (engine.mint path state).2) :=
  advance_ofProgress engine false (engine.start path state).1 (engine.start path state).2

/-- A step that nothing comes along with is its action. -/
theorem runStep_alone (engine : Engine) (action : Action) (state : State) :
    (runStep engine ⟨action, []⟩ state).1.answer = (perform engine action state).1.answer? ∧
      (runStep engine ⟨action, []⟩ state).2 = (perform engine action state).2 := by
  unfold runStep perform
  cases begin engine action state with
  | mk activity begun =>
    cases hdrawing : activity.isDrawing <;> simp [hdrawing, runAll]

theorem runAll_append {α β : Type} (step : α → State → β × State) (first second : List α)
    (state : State) :
    runAll step (first ++ second) state =
      ((runAll step first state).1 ++ (runAll step second (runAll step first state).2).1,
        (runAll step second (runAll step first state).2).2) := by
  induction first generalizing state with
  | nil => rfl
  | cons item rest ih => simp only [List.cons_append, runAll, ih]

theorem run_append (engine : Engine) (first second : List Step) (state : State) :
    run engine (first ++ second) state =
      ((run engine first state).1 ++ (run engine second (run engine first state).2).1,
        (run engine second (run engine first state).2).2) :=
  runAll_append (runStep engine) first second state

end TokenMint.Session
