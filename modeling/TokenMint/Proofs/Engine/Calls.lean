import TokenMint.Proofs.Engine.Service

/-!
# Calls of minting

A visitor that generates tokens makes one call of minting: for its demand in hand, at the instant of
its request, and with a result that it holds until it delivers it (`Engine.Call`). The call returns
with the step by which the visitor comes to hold the result (`Service.callsOf`). `Service.calls` are
all calls that return during a run, in their order, each of them once, for a visitor that goes on
has delivered what it held (`Engine.Stage.call?_advance_of_some`). A visitor that breaks down before
its call has returned leaves none behind.
-/

set_option autoImplicit false
set_option relaxedAutoImplicit false

namespace TokenMint

namespace Engine

/-- A call of minting that has returned: what it was made for, when, and what it came to. -/
structure Call where
  demand : Demand
  now : Duration
  result : Except TokenError Minted

/-- The call whose result is held. -/
def Stage.call? : Stage → Option Call
  | holding _ result request => some ⟨request.demand, request.now, result⟩
  | _ => none

/-- The visitor has delivered the result of its call when it goes on, and does not hold another. -/
theorem Stage.call?_advance_of_some {engine : Engine} {stage : Stage} {call : Call}
    (hcall : stage.call? = some call) (state : State) :
    (stage.advance engine state).1.call? = none := by
  cases stage with
  | holding guard result request =>
    simp only [advance, deliver, settle]
    split
    · rfl
    · cases request.pending <;> rfl
  | asking | generating | drawing | waiting | answered | brokenDown => simp [call?] at hcall

end Engine

namespace Service

open Engine (Call)

/-- The calls that return with a step. -/
def callsOf (engine : Engine) (service : Service) : Step → List Call
  | .advance position =>
    match service.visitors[position]? with
    | none => []
    | some visitor => (visitor.stage.advance engine service.state).1.call?.toList
  | _ => []

/-- The calls that return during several steps. -/
def callsFrom (engine : Engine) : Service → List Step → List Call
  | _, [] => []
  | service, step :: rest =>
    service.callsOf engine step ++ callsFrom engine (service.after engine step) rest

/-- The calls that return during a run. -/
def calls (engine : Engine) (policy : Policy) (clock : Except TokenError Duration)
    (collector : Collector) (steps : List Step) : List Call :=
  callsFrom engine (initial policy clock collector) steps

variable {engine : Engine} {service : Service}

theorem callsOf_advance {position : Nat} {visit : Visit} {stage : Engine.Stage}
    (hvisitor : service.visitors[position]? = some ⟨visit, stage⟩) :
    service.callsOf engine (.advance position) =
      (stage.advance engine service.state).1.call?.toList := by
  simp only [callsOf, hvisitor]

end Service

end TokenMint
