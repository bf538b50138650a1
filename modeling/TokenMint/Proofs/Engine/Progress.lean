import TokenMint.Proofs.Engine.Memo
import TokenMint.Proofs.Engine.Service

/-!
# Requests are visits

`Engine.start`, `Engine.continueDraw` and `Engine.continueWait` take a request through several of
its demands at once. Each of them is what a visitor does that goes on for some stages while nobody
else does anything (`Service.leads_start`, `Service.leads_continueDraw`,
`Service.leads_continueWait`). So in whatever order requests are started and continued, this is a
run of a service, and so is a request that is run to its answer (`Service.leads_mint`).
-/

set_option autoImplicit false
set_option relaxedAutoImplicit false

namespace TokenMint

open Engine (Demand Draw Progress Request Stage State)

/-- How far a request has come, as the stage of a visitor. -/
def Engine.Stage.ofResult (result : Progress × State) : Stage × State :=
  (.ofProgress result.1, result.2)

namespace Service

variable {engine : Engine} {service middle last : Service} {position : Nat} {visit : Visit}

/-- A visitor goes on for some stages, from one service to another. -/
def Leads (engine : Engine) (position : Nat) (first last : Service) : Prop :=
  ∃ count, first.afterAll engine (List.replicate count (.advance position)) = last

theorem leads_refl (engine : Engine) (position : Nat) (service : Service) :
    Leads engine position service service :=
  ⟨0, rfl⟩

theorem Leads.trans (hfirst : Leads engine position service middle)
    (hsecond : Leads engine position middle last) : Leads engine position service last := by
  obtain ⟨count, rfl⟩ := hfirst
  obtain ⟨more, rfl⟩ := hsecond
  refine ⟨count + more, ?_⟩
  rw [← List.replicate_append_replicate, afterAll_append]

/-! ### Where a visitor stands -/

theorem getElem?_move (hposition : position < service.visitors.length) (visit : Visit)
    (next : Stage × State) :
    (service.move position visit next).visitors[position]? = some ⟨visit, next.1⟩ :=
  List.getElem?_set_self hposition

theorem move_move (service : Service) (position : Nat) (visit : Visit)
    (next after : Stage × State) :
    (service.move position visit next).move position visit after =
      service.move position visit after := by
  simp only [move, List.set_set]

/-- A visitor goes on by one stage. -/
theorem leads_advance (engine : Engine) (hposition : position < service.visitors.length)
    (visit : Visit) (stage : Stage) (state : State) :
    Leads engine position (service.move position visit (stage, state))
      (service.move position visit (stage.advance engine state)) := by
  refine ⟨1, ?_⟩
  simp only [List.replicate_one, afterAll_cons, afterAll_nil, after, getElem?_move hposition]
  exact move_move service position visit _ _

/-! ### Requests -/

theorem leads_proceed (engine : Engine) (hposition : position < service.visitors.length)
    (visit : Visit) (now : Duration) (finished : List EmittedTokens) (demands : List Demand)
    (state : State) :
    Leads engine position (service.move position visit (.next now finished demands, state))
      (service.move position visit
        (Stage.ofResult (Engine.proceed now finished demands state))) := by
  induction demands generalizing finished state with
  | nil => exact leads_refl engine position _
  | cons demand pending ih =>
    have hask := leads_advance engine hposition visit
      (.next now finished (demand :: pending)) state
    simp only [Stage.next, Stage.advance, Stage.ask] at hask
    unfold Engine.proceed
    cases hconsult : state.cache.consult (demand.lookup now) with
    | mk told cache =>
      simp only [hconsult] at hask ⊢
      cases told with
      | served served => exact hask.trans (ih _ _)
      | wait generation => exact hask
      | generate guard =>
        have hannounce := leads_advance engine hposition visit
          (.generating guard ⟨now, finished, demand, pending⟩) { state with cache := cache }
        simp only [Stage.advance, Stage.announce] at hannounce
        cases hvalid : demand.settings.validate with
        | ok =>
          simp only [hvalid] at hannounce ⊢
          exact hask.trans hannounce
        | error fault =>
          simp only [hvalid] at hannounce ⊢
          refine (hask.trans hannounce).trans ?_
          have hdeliver := leads_advance engine hposition visit
            (.holding guard (.error (.ofFault fault)) ⟨now, finished, demand, pending⟩)
            { state with cache := cache }
          cases guard <;> exact hdeliver

/-- An answered demand takes a visitor as far as a request. -/
theorem leads_settle (engine : Engine) (hposition : position < service.visitors.length)
    (visit : Visit) (request : Request) (answer : Except TokenError Served) (state : State) :
    Leads engine position (service.move position visit (Stage.settle request answer state))
      (service.move position visit
        (Stage.ofResult (Engine.conclude request answer state))) := by
  cases answer with
  | error error => exact leads_refl engine position _
  | ok served => exact leads_proceed engine hposition visit _ _ _ _

theorem leads_continueDraw (engine : Engine) (hposition : position < service.visitors.length)
    (visit : Visit) (draw : Draw) (request : Request) (state : State) :
    Leads engine position (service.move position visit (.drawing draw request, state))
      (service.move position visit
        (Stage.ofResult (engine.continueDraw draw request state))) := by
  have htake := leads_advance engine hposition visit (.drawing draw request) state
  have hdeliver := leads_advance engine hposition visit
    (Stage.take engine draw request state).1 (Stage.take engine draw request state).2
  exact (htake.trans hdeliver).trans (leads_settle engine hposition visit request _ _)

theorem leads_continueWait (engine : Engine) (hposition : position < service.visitors.length)
    (visit : Visit) (generation : Nat) (request : Request) (state : State) :
    Leads engine position (service.move position visit (.waiting generation request, state))
      (service.move position visit
        (Stage.ofResult (Engine.continueWait generation request state))) := by
  have hlook := leads_advance engine hposition visit (.waiting generation request) state
  simp only [Stage.advance, Stage.look] at hlook
  unfold Engine.continueWait
  cases hanswer : state.cache.await? generation with
  | none =>
    simp only [hanswer] at hlook
    exact hlook
  | some answer =>
    simp only [hanswer] at hlook
    exact hlook.trans (leads_settle engine hposition visit request answer state)

theorem leads_drawUpTo (engine : Engine) (hposition : position < service.visitors.length)
    (visit : Visit) (count : Nat) (progress : Progress) (state : State) :
    Leads engine position (service.move position visit (.ofProgress progress, state))
      (service.move position visit
        (Stage.ofResult (engine.drawUpTo count progress state))) := by
  induction count generalizing progress state with
  | zero => exact leads_refl engine position _
  | succ count ih =>
    cases progress with
    | drawing draw request =>
      exact (leads_continueDraw engine hposition visit draw request state).trans (ih _ _)
    | answered reply => exact leads_refl engine position _
    | waiting generation request => exact leads_refl engine position _

/-! ### Arrivals -/

/-- A visitor that has just arrived stands at the last position. -/
theorem enter_eq_move (service : Service) (visit : Visit) (next other : Stage × State) :
    service.enter visit next =
      (service.enter visit other).move service.visitors.length visit next := by
  simp [enter, move]

theorem length_lt_enter (service : Service) (visit : Visit) (next : Stage × State) :
    service.visitors.length < (service.enter visit next).visitors.length := by
  simp [enter]

/-- A visitor that is let in goes on as far as a request that is started. -/
theorem leads_start (engine : Engine) (service : Service) (path : String) :
    Leads engine service.visitors.length
      (service.after engine (.arrive ⟨path, service.state.clock⟩))
      (service.enter ⟨path, service.state.clock⟩
        (Stage.ofResult (engine.start path service.state))) := by
  obtain ⟨state, visitors⟩ := service
  have hclock := Engine.clock_resolve engine path state
  simp only [after, Engine.receive, Engine.start]
  cases hresolved : engine.resolve path state with
  | mk resolved next =>
    rw [hresolved] at hclock
    cases resolved with
    | error error =>
      cases hinactive : error.isInactive with
      | true =>
        simp only [hinactive, if_true]
        exact leads_refl engine _ _
      | false =>
        simp only [hinactive, Bool.false_eq_true, if_false]
        exact leads_refl engine _ _
    | ok resolved =>
      obtain ⟨chain, settings⟩ := resolved
      cases hadmits : settings.admits path with
      | false =>
        simp only [hadmits, Bool.false_eq_true, if_false]
        exact leads_refl engine _ _
      | true =>
        simp only [hadmits, if_true, ← hclock]
        cases next.clock with
        | error error => exact leads_refl engine _ _
        | ok now =>
          let read := (next.readClock (.ok now)).2
          have hposition := length_lt_enter ⟨state, visitors⟩ ⟨path, .ok now⟩ (.brokenDown, read)
          rw [enter_eq_move _ _ _ (.brokenDown, read),
            enter_eq_move _ _ (Stage.ofResult _) (.brokenDown, read)]
          exact leads_proceed engine hposition _ now [] _ read

/-- A visitor that nobody overlaps goes on as far as a request that nothing overlaps. -/
theorem leads_mint (engine : Engine) (service : Service) (path : String) :
    Leads engine service.visitors.length
      (service.after engine (.arrive ⟨path, service.state.clock⟩))
      (service.enter ⟨path, service.state.clock⟩
        (Stage.ofResult (engine.mint path service.state))) := by
  have hstart := leads_start engine service path
  have hposition := length_lt_enter service ⟨path, service.state.clock⟩
    (Stage.ofResult (engine.start path service.state))
  have hdraw := leads_drawUpTo engine hposition ⟨path, service.state.clock⟩
    (engine.start path service.state).1.drawsLeft (engine.start path service.state).1
    (engine.start path service.state).2
  rw [← enter_eq_move, ← enter_eq_move] at hdraw
  exact hstart.trans hdraw

end Service

end TokenMint
