import TokenMint.Proofs.Engine.Memo
import TokenMint.Proofs.Engine.Service

/-!
# Readings of the clock

The state of an engine tells what the clock shows and how often it has been read. What an act comes
to does not depend on either, and the act changes neither, if it comes to the same in the state with
any other clock (`Engine.State.IgnoresClock`). So it is with resolving a path and with every stage
of a visitor that has been let in, a breakdown included. A visitor is let in with one reading, if it
is due tokens, and a question for the statistics takes another one; nothing else reads the clock
(`Engine.clockReadings_begin`).
-/

set_option autoImplicit false
set_option relaxedAutoImplicit false

namespace TokenMint

/-- Whether an action reads the clock that is no request. -/
def Session.Action.readsClock : Session.Action → Bool
  | .stats => true
  | _ => false

namespace Engine

namespace State

/-- The state in which the clock shows something else and has been read so many times. -/
def withClock (state : State) (shown : Except TokenError Duration) (readings : Nat) : State :=
  { state with clock := shown, clockReadings := readings }

/-- What comes of an act does not depend on the clock, and the act leaves the clock alone. -/
def IgnoresClock {α : Type} (act : State → α × State) : Prop :=
  ∀ state shown readings, act (state.withClock shown readings) =
    ((act state).1, (act state).2.withClock shown readings)

/-- The clock is not read. -/
theorem IgnoresClock.clockReadings {α : Type} {act : State → α × State} (hact : IgnoresClock act)
    (state : State) : (act state).2.clockReadings = state.clockReadings :=
  congrArg (fun result ↦ result.2.clockReadings) (hact state state.clock state.clockReadings)

end State

open State (IgnoresClock)

theorem ignoresClock_resolve (engine : Engine) (path : String) :
    IgnoresClock (engine.resolve path) := by
  intro state shown readings
  unfold resolve
  cases engine.tree.chain path with
  | error error => rfl
  | ok chain =>
    unfold remember State.withClock
    cases hget : state.resolutions.get? chain.key <;> simp [hget, State.notify]

namespace Stage

theorem ignoresClock_settle (request : Request) (answer : Except TokenError Served) :
    IgnoresClock (settle request answer) := by
  intro state shown readings
  cases answer with
  | error error => rfl
  | ok served =>
    simp only [settle, State.recordServed, State.withClock]
    cases served.outcome.isFresh <;> rfl

/-- A visitor that goes on does not ask the clock. -/
theorem ignoresClock_advance (engine : Engine) (stage : Stage) :
    IgnoresClock (stage.advance engine) := by
  intro state shown readings
  cases stage with
  | asking request =>
    cases hconsult : state.cache.consult (request.demand.lookup request.now) with
    | mk told cache =>
      have hsame : (state.withClock shown readings).cache.consult
          (request.demand.lookup request.now) = (told, cache) := hconsult
      simp only [advance, ask, hconsult, hsame]
      cases told with
      | served served =>
        exact ignoresClock_settle request (.ok served) { state with cache := cache } shown readings
      | wait generation => rfl
      | generate guard => rfl
  | generating guard request =>
    simp only [advance, announce]
    cases request.demand.settings.validate <;> rfl
  | drawing draw request => rfl
  | holding guard result request =>
    let delivered := state.cache.deliver (request.demand.lookup request.now) guard result
    exact ignoresClock_settle request delivered.1 { state with cache := delivered.2 } shown readings
  | waiting generation request =>
    cases hanswer : state.cache.await? generation with
    | none =>
      have hsame : (state.withClock shown readings).cache.await? generation = none := hanswer
      simp only [advance, look, hanswer, hsame]
    | some answer =>
      have hsame : (state.withClock shown readings).cache.await? generation = some answer := hanswer
      simp only [advance, look, hanswer, hsame]
      exact ignoresClock_settle request answer state shown readings
  | answered reply => rfl
  | brokenDown => rfl

theorem ignoresClock_breakDown (stage : Stage) : IgnoresClock stage.breakDown := by
  intro state shown readings
  unfold breakDown
  cases stage.hold? <;> rfl

end Stage

/-- Of the actions that are no requests, only the question for the statistics reads the clock. -/
theorem clockReadings_begin (engine : Engine) {action : Session.Action}
    (hrequest : Service.isRequest action = false) (state : State) :
    (Session.begin engine action state).2.clockReadings =
      state.clockReadings + action.readsClock.toNat := by
  cases action with
  | mint path => simp [Service.isRequest] at hrequest
  | handle path => simp [Service.isRequest] at hrequest
  | resolve path => exact clockReadings_resolve engine path state
  | stats | setClock | metrics | resetMetrics => rfl
  | lookup lookup tokens signatures =>
    simp only [Session.begin, Session.lookupNow]
    cases state.cache.consult lookup with
    | mk told cache => cases told <;> rfl

end Engine

end TokenMint
