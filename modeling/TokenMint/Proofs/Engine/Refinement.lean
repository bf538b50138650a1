import TokenMint.Proofs.Engine.Memo

/-!
# Engines answer like plain engines

A request that nothing overlaps gets from an engine the reply that a plain engine gives, and draws
the same bytes. The invariant is `Engine.Mirrors`: the cache is at rest and keeps what the table of
the plain engine holds, the source has been used alike, and whatever is remembered about a key is
what the chain of that key resolves to, so that a path is resolved alike (`Engine.resolve_mirrors`).
A demand is met by one look-up and at most one draw, after which the invariant holds again
(`Engine.meets_proceed`), so it holds after all demands of a request (`Engine.drawFrom_proceed`) and
after all requests.
-/

set_option autoImplicit false
set_option relaxedAutoImplicit false

namespace TokenMint.Engine

/-- The state of an engine is as good as that of a plain engine. -/
structure Mirrors (engine : Engine) (state : State) (plain : Plain) : Prop where
  keeps : state.cache.Keeps plain.kept
  entropy : state.entropy = plain.entropy
  /-- What is remembered under the key of a chain is the resolution of that chain. -/
  remembered : ∀ path chain resolution, engine.tree.chain path = .ok chain →
    state.resolutions.get? chain.key = some resolution → resolution = engine.resolution chain

/-- A request has been answered, and the state is as good as that of a plain engine. -/
def Answers (engine : Engine) (result : Progress × State) (answer : Reply × Plain) : Prop :=
  result.1 = .answered answer.1 ∧ engine.Mirrors result.2 answer.2

variable {engine : Engine} {state : State} {plain : Plain}

theorem mirrors_initial (engine : Engine) (policy : Policy) (clock : Except TokenError Duration)
    (collector : Collector) : engine.Mirrors (.initial policy clock collector) .initial where
  keeps := Cache.keeps_empty policy
  entropy := rfl
  remembered _ chain resolution _ hget := by
    simp [State.initial] at hget

/-! ### What is told to collectors and operators does not count -/

theorem Mirrors.record (hmirrors : engine.Mirrors state plain) (event : Event) :
    engine.Mirrors (state.record event) plain :=
  ⟨hmirrors.keeps, hmirrors.entropy, hmirrors.remembered⟩

theorem Mirrors.notify (hmirrors : engine.Mirrors state plain) (notices : List Notice) :
    engine.Mirrors (state.notify notices) plain :=
  ⟨hmirrors.keeps, hmirrors.entropy, hmirrors.remembered⟩

theorem Mirrors.recordServed (hmirrors : engine.Mirrors state plain) (served : Served) :
    engine.Mirrors (state.recordServed served) plain := by
  unfold State.recordServed
  split
  · exact (hmirrors.record _).record _
  · exact hmirrors.record _

theorem Mirrors.recordFailure (hmirrors : engine.Mirrors state plain) (key : String)
    (error : TokenError) : engine.Mirrors (state.recordFailure key error) plain :=
  (hmirrors.notify _).record _

theorem Mirrors.readClock (hmirrors : engine.Mirrors state plain)
    (shown : Except TokenError Duration) :
    engine.Mirrors (state.readClock shown).2 plain :=
  ⟨hmirrors.keeps, hmirrors.entropy, hmirrors.remembered⟩

/-! ### Resolving a path -/

/-- A plain engine works out what an engine remembers or works out. -/
theorem resolve_mirrors (hmirrors : engine.Mirrors state plain) (path : String) :
    (engine.resolve path state).1 = Plain.resolve engine path ∧
      engine.Mirrors (engine.resolve path state).2 plain ∧
        (engine.resolve path state).2.clock = state.clock := by
  have hmemo : engine.Remembers state.resolutions := hmirrors.remembered
  obtain ⟨hresolve, hremembers⟩ := hmemo.resolve path
  refine ⟨hresolve, ⟨?_, ?_, hremembers⟩, clock_resolve engine path state⟩
  · rw [cache_resolve]
    exact hmirrors.keeps
  · rw [entropy_resolve]
    exact hmirrors.entropy

/-! ### Meeting the demands of a request -/

/-- Goes on from where a request has come to, for at most so many draws. -/
def drawFrom (engine : Engine) (count : Nat) (result : Progress × State) : Progress × State :=
  engine.drawUpTo count result.1 result.2

theorem drawFrom_answered (count : Nat) (reply : Reply) (state : State) :
    engine.drawFrom count (.answered reply, state) = (.answered reply, state) := by
  cases count <;> rfl

theorem drawFrom_drawing (count : Nat) (draw : Draw) (request : Request) (state : State) :
    engine.drawFrom (count + 1) (.drawing draw request, state) =
      engine.drawFrom count (engine.continueDraw draw request state) :=
  rfl

/-- Announcing a draw and making it yields what minting does at once. -/
theorem continueDraw_announced {now : Duration} {demand : Demand} {use entropy : EntropyUse}
    {result : Except TokenError Minted} (hvalid : demand.settings.validate = .ok ())
    (hmint : demand.settings.mint engine.source demand.key now use = (result, entropy))
    (finished : List EmittedTokens) (pending : List Demand) (guard : Option Guard)
    (cache : Cache) (state : State) :
    engine.continueDraw ⟨(use.announce demand.settings.bytesPerDraw).1, guard⟩
        ⟨now, finished, demand, pending⟩
        { state with
          cache := cache, entropy := (use.announce demand.settings.bytesPerDraw).2 } =
      conclude ⟨now, finished, demand, pending⟩
        (cache.deliver (demand.lookup now) guard result).1
        { state with
          cache := (cache.deliver (demand.lookup now) guard result).2,
          entropy := entropy } := by
  simp only [Settings.mint, hvalid] at hmint
  obtain ⟨rfl, rfl⟩ := Prod.mk.inj hmint
  rfl

/-- With so many draws, a result comes to what the request comes to once its demand in hand has the
answer of a plain engine. -/
def Meets (engine : Engine) (count : Nat) (result : Progress × State) (request : Request)
    (answer : Except TokenError Served × Plain) : Prop :=
  ∃ left after, engine.drawFrom count result =
      engine.drawFrom left (conclude request answer.1 after) ∧
    engine.Mirrors after answer.2 ∧ (conclude request answer.1 after).1.drawsLeft ≤ left

/-- One demand is met as a plain engine meets it. -/
theorem meets_proceed (hmirrors : engine.Mirrors state plain) (now : Duration)
    (finished : List EmittedTokens) (demand : Demand) (pending : List Demand) {count : Nat}
    (hcount : (proceed now finished (demand :: pending) state).1.drawsLeft ≤ count) :
    engine.Meets count (proceed now finished (demand :: pending) state)
      ⟨now, finished, demand, pending⟩ (plain.answer engine now demand) := by
  cases hfind : (demand.lookup now).find? plain.kept with
  | some kept =>
    have hconsult := Cache.consult_of_find?_eq_some hmirrors.keeps hfind
    have hproceed : proceed now finished (demand :: pending) state =
        conclude ⟨now, finished, demand, pending⟩ (.ok ⟨kept.minted, .hit⟩) state := by
      rw [proceed, hconsult, conclude]
    rw [hproceed] at hcount ⊢
    rw [Plain.answer_of_find?_eq_some hfind]
    exact ⟨count, state, rfl, hmirrors, hcount⟩
  | none =>
    obtain ⟨guard, started, hconsult, hdeliver⟩ :=
      Cache.consult_of_find?_eq_none hmirrors.keeps hfind
    cases hmint : demand.settings.mint engine.source demand.key now plain.entropy with
    | mk result entropy =>
      obtain ⟨after, hafter, hkeeps⟩ := hdeliver result
      rw [Plain.answer_of_find?_eq_none hfind hmint]
      cases hvalid : demand.settings.validate with
      | error fault =>
        -- Refused settings fail before anything is drawn, and so does minting with them.
        obtain ⟨rfl, rfl⟩ : Except.error (.ofFault fault) = result ∧ plain.entropy = entropy := by
          simpa only [Settings.mint, hvalid, Prod.mk.injEq] using hmint
        have hproceed : proceed now finished (demand :: pending) state =
            conclude ⟨now, finished, demand, pending⟩ (.error (.ofFault fault))
              { state with cache := after } := by
          simp only [proceed, hconsult, hvalid, hafter, conclude]
        rw [hproceed] at hcount ⊢
        exact ⟨count, { state with cache := after }, rfl,
          ⟨hkeeps, hmirrors.entropy, hmirrors.remembered⟩, hcount⟩
      | ok =>
        have hproceed : proceed now finished (demand :: pending) state =
            (.drawing ⟨(plain.entropy.announce demand.settings.bytesPerDraw).1, guard⟩
              ⟨now, finished, demand, pending⟩,
              { state with
                cache := started,
                entropy := (plain.entropy.announce demand.settings.bytesPerDraw).2 }) := by
          simp only [proceed, hconsult, hvalid, hmirrors.entropy]
        rw [hproceed] at hcount ⊢
        obtain ⟨left, rfl⟩ : ∃ left, count = left + 1 :=
          ⟨count - 1, (Nat.succ_pred_eq_of_pos (Nat.lt_of_lt_of_le (Nat.succ_pos _) hcount)).symm⟩
        unfold Meets
        rw [drawFrom_drawing, continueDraw_announced hvalid hmint, hafter]
        refine ⟨left, _, rfl, ⟨hkeeps, rfl, hmirrors.remembered⟩, ?_⟩
        exact Nat.le_trans (drawsLeft_conclude_le _ _ _) (Nat.le_of_succ_le_succ hcount)

/-- The demands of a request are met as a plain engine meets them. -/
theorem drawFrom_proceed (hmirrors : engine.Mirrors state plain) (now : Duration)
    (finished : List EmittedTokens) (demands : List Demand) {count : Nat}
    (hcount : (proceed now finished demands state).1.drawsLeft ≤ count) :
    engine.Answers (engine.drawFrom count (proceed now finished demands state))
      ((plain.answerAll engine now demands).1.map fun emitted ↦ emission? (finished ++ emitted),
        (plain.answerAll engine now demands).2) := by
  induction demands generalizing finished state plain count with
  | nil =>
    rw [proceed, drawFrom_answered, Plain.answerAll]
    refine ⟨?_, hmirrors⟩
    rw [Except.map, List.append_nil]
  | cons demand pending ih =>
    obtain ⟨left, after, hdraw, hafter, hleft⟩ :=
      meets_proceed hmirrors now finished demand pending hcount
    rw [hdraw]
    cases hanswer : plain.answer engine now demand with
    | mk answer met =>
      rw [hanswer] at hafter hleft
      cases answer with
      | error error =>
        rw [Plain.answerAll_of_error pending hanswer, conclude, fail, drawFrom_answered]
        exact ⟨rfl, hafter.recordFailure _ _⟩
      | ok served =>
        obtain ⟨hreply, hend⟩ :=
          ih (hafter.recordServed served) (finished ++ [demand.emitted served]) hleft
        rw [Plain.answerAll_of_ok pending hanswer, conclude]
        refine ⟨hreply.trans ?_, hend⟩
        cases (met.answerAll engine now pending).1 with
        | error error => rfl
        | ok others => simp [Except.map]

/-! ### Requests -/

/-- A request that nothing overlaps gets the reply of a plain engine. -/
theorem mint_answers (hmirrors : engine.Mirrors state plain) (path : String) :
    engine.Answers (engine.mint path state) (plain.reply engine ⟨path, state.clock⟩) := by
  obtain ⟨hresolve, hafter, hclock⟩ := resolve_mirrors hmirrors path
  have hmint : engine.mint path state =
      engine.drawFrom (engine.start path state).1.drawsLeft (engine.start path state) := rfl
  rw [hmint, start, Plain.reply, ← hresolve]
  cases hresolved : engine.resolve path state with
  | mk resolved after =>
    rw [hresolved] at hafter hclock
    cases resolved with
    | error error =>
      cases hinactive : error.isInactive with
      | true =>
        simp only [hinactive, if_true, drawFrom_answered]
        exact ⟨rfl, hafter.record _⟩
      | false =>
        simp only [hinactive, Bool.false_eq_true, if_false, drawFrom_answered]
        exact ⟨rfl, hafter⟩
    | ok resolved =>
      obtain ⟨chain, settings⟩ := resolved
      cases hadmits : settings.admits path with
      | false =>
        simp only [hadmits, Bool.false_eq_true, if_false, drawFrom_answered]
        exact ⟨rfl, hafter.record _⟩
      | true =>
        simp only [hadmits, if_true]
        rw [hclock]
        cases state.clock with
        | error error =>
          simp only [State.readClock, drawFrom_answered]
          exact ⟨rfl, hafter.readClock (.error error)⟩
        | ok now => exact drawFrom_proceed (hafter.readClock (.ok now)) now [] _ (Nat.le_refl _)

end TokenMint.Engine

namespace TokenMint

open Engine (State)

/-! ### Runs -/

/-- The clock is set, and then a request is made. -/
def Visit.steps (visit : Visit) : List Session.Step :=
  [⟨.setClock visit.clock, []⟩, ⟨.mint visit.path, []⟩]

/-- The answers to the steps of a visit. -/
def Visit.answers (reply : Engine.Reply) : List (Option Session.Answer) :=
  [some .clockSet, some (.minted reply)]

namespace Engine

variable {engine : Engine} {state : State} {plain : Plain}

/-- A visit comes to its request, once the clock is set. -/
theorem session_run_visit (engine : Engine) (visit : Visit) (state : State) :
    let minted := engine.mint visit.path { state with clock := visit.clock }
    (Session.run engine visit.steps state).1.map Session.Report.answer =
        [some .clockSet, (Session.Activity.ofProgress false minted.1).answer?] ∧
      (Session.run engine visit.steps state).2 = minted.2 := by
  have hclock : (Session.runStep engine ⟨.setClock visit.clock, []⟩ state).2 =
      { state with clock := visit.clock } :=
    (Session.runStep_alone engine (.setClock visit.clock) state).2
  have hclockSet : (Session.runStep engine ⟨.setClock visit.clock, []⟩ state).1.answer =
      some .clockSet :=
    (Session.runStep_alone engine (.setClock visit.clock) state).1
  obtain ⟨hanswer, hstate⟩ :=
    Session.runStep_alone engine (.mint visit.path) { state with clock := visit.clock }
  rw [Session.perform_mint] at hanswer hstate
  simp only [Session.run, Visit.steps, Session.runAll, List.map_cons, List.map_nil]
  rw [hclock, hclockSet, hanswer, hstate]
  exact ⟨rfl, rfl⟩

/-- A visit is answered as a plain engine answers it. -/
theorem run_visit (hmirrors : engine.Mirrors state plain) (visit : Visit) :
    (Session.run engine visit.steps state).1.map Session.Report.answer =
        Visit.answers (plain.reply engine visit).1 ∧
      engine.Mirrors (Session.run engine visit.steps state).2 (plain.reply engine visit).2 := by
  have hset : engine.Mirrors { state with clock := visit.clock } plain :=
    ⟨hmirrors.keeps, hmirrors.entropy, hmirrors.remembered⟩
  obtain ⟨hreply, hafter⟩ := mint_answers hset visit.path
  obtain ⟨hanswers, hstate⟩ := session_run_visit engine visit state
  rw [hreply] at hanswers
  rw [hanswers, hstate]
  exact ⟨rfl, hafter⟩

/-- So are all visits, one after the other. -/
theorem run_visits (hmirrors : engine.Mirrors state plain) (visits : List Visit) :
    (Session.run engine (visits.flatMap Visit.steps) state).1.map Session.Report.answer =
        (Plain.run engine visits plain).1.flatMap Visit.answers ∧
      engine.Mirrors (Session.run engine (visits.flatMap Visit.steps) state).2
        (Plain.run engine visits plain).2 := by
  induction visits generalizing state plain with
  | nil => exact ⟨rfl, hmirrors⟩
  | cons visit rest ih =>
    obtain ⟨hanswers, hafter⟩ := run_visit hmirrors visit
    obtain ⟨hrest, hend⟩ := ih hafter
    rw [List.flatMap_cons, Session.run_append]
    simp only [Plain.run, List.map_append, List.flatMap_cons]
    exact ⟨by rw [hanswers, hrest], hend⟩

end Engine

/-- An engine that has not been used answers every list of visits as a plain engine does, and has
then drawn the same bytes from its source in the same draws. -/
theorem engine_refines_plain (engine : Engine) (policy : Policy)
    (clock : Except TokenError Duration) (collector : Collector) (visits : List Visit) :
    let (reports, state) :=
      Session.run engine (visits.flatMap Visit.steps) (.initial policy clock collector)
    let (replies, plain) := Plain.run engine visits .initial
    reports.map Session.Report.answer = replies.flatMap Visit.answers ∧
      state.entropy = plain.entropy := by
  obtain ⟨hanswers, hend⟩ :=
    Engine.run_visits (Engine.mirrors_initial engine policy clock collector) visits
  exact ⟨hanswers, hend.entropy⟩

end TokenMint
