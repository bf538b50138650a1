import TokenMint.Proofs.Cache.Fitting
import TokenMint.Proofs.Engine.Calls
import TokenMint.Proofs.Engine.Memo
import TokenMint.Proofs.Settings.Minting

/-!
# What a visitor can be told

Whatever else goes on at an engine, a visitor gets one of a few replies (`Engine.Justifies`): no
tokens, if none are due; an emission that answers the demands of its chain one by one; or an error
of its clock, of minting for one of its demands, or of a generation that it waited for. A demand is
answered by tokens that one of the calls of the run minted for it just then (`Engine.Made`), or by
tokens that fit its key (`Engine.Grants`), where what fits is up to the reader, as long as it covers
all that these calls mint to be kept (`Engine.CoversCalls`) and all that is put into the cache from
elsewhere. What covers all that the engine can mint to be kept (`Engine.Covers`) covers the calls of
any run.

Every stage of a visitor has its own assertion (`Engine.Stage.Sound`). A step of a visitor takes it
from one assertion to the next and leaves those of other visitors true, because they speak of the
cache through the labels of its generations alone, of which there are only ever more
(`Service.Sound.after`). So the assertions hold throughout every run, with the calls that return
during the run (`Service.sound_run_of_coversCalls`, `Service.sound_run`).
-/

set_option autoImplicit false
set_option relaxedAutoImplicit false

namespace TokenMint

namespace Engine

/-- What minting for a demand at an instant can come to. -/
def Mints (engine : Engine) (demand : Demand) (now : Duration)
    (result : Except TokenError Minted) : Prop :=
  ∃ use, (demand.settings.mint engine.source demand.key now use).1 = result

/-- One of the calls was made for a demand at an instant and had a result that minting for it can
come to. -/
def Made (engine : Engine) (calls : List Call) (demand : Demand) (now : Duration)
    (result : Except TokenError Minted) : Prop :=
  ⟨demand, now, result⟩ ∈ calls ∧ engine.Mints demand now result

/-- Whether some path of the engine has the demand. -/
def HasDemand (engine : Engine) (demand : Demand) : Prop :=
  ∃ path chain settings, Plain.resolve engine path = .ok (chain, settings) ∧
    demand ∈ Demand.ofChain chain settings

/-- Whatever the engine mints to be kept fits its key. -/
def Covers (engine : Engine) (fits : String → Kept → Prop) : Prop :=
  ∀ demand now minted, engine.HasDemand demand → demand.settings.ttl.isZero = false →
    engine.Mints demand now (.ok minted) → fits demand.key ⟨minted, now + demand.settings.ttl⟩

/-- Whatever the calls have minted to be kept fits its key. -/
def CoversCalls (engine : Engine) (calls : List Call) (fits : String → Kept → Prop) : Prop :=
  ∀ demand now minted, engine.HasDemand demand → demand.settings.ttl.isZero = false →
    engine.Made calls demand now (.ok minted) → fits demand.key ⟨minted, now + demand.settings.ttl⟩

theorem Covers.coversCalls {engine : Engine} {fits : String → Kept → Prop}
    (hcovers : engine.Covers fits) (calls : List Call) : engine.CoversCalls calls fits :=
  fun demand now minted hdemand hlifetime hmade ↦
    hcovers demand now minted hdemand hlifetime hmade.2

/-- How a demand can be answered at an instant. -/
inductive Grants (engine : Engine) (calls : List Call) (fits : String → Kept → Prop)
    (now : Duration) (demand : Demand) : Served → Prop
  | generated {minted : Minted} (hlifetime : demand.settings.ttl.isZero = false)
    (hmade : engine.Made calls demand now (.ok minted)) :
    Grants engine calls fits now demand ⟨minted, .generated⟩
  | bypassed {minted : Minted} (hzero : demand.settings.ttl.isZero = true)
    (hmade : engine.Made calls demand now (.ok minted)) :
    Grants engine calls fits now demand ⟨minted, .bypassed⟩
  | hit {minted : Minted} {expiresAt : Duration} (hlifetime : demand.settings.ttl.isZero = false)
    (hfits : fits demand.key ⟨minted, expiresAt⟩) (hfresh : now < expiresAt) :
    Grants engine calls fits now demand ⟨minted, .hit⟩
  | awaited {minted : Minted} {expiresAt : Duration}
    (hlifetime : demand.settings.ttl.isZero = false)
    (hfits : fits demand.key ⟨minted, expiresAt⟩) :
    Grants engine calls fits now demand ⟨minted, .awaited⟩
  | stale {minted : Minted} {expiresAt : Duration} (hlifetime : demand.settings.ttl.isZero = false)
    (hfits : fits demand.key ⟨minted, expiresAt⟩) :
    Grants engine calls fits now demand ⟨minted, .stale⟩

/-- Emitted tokens answer a demand. -/
def Suits (engine : Engine) (calls : List Call) (fits : String → Kept → Prop) (now : Duration)
    (demand : Demand) (emitted : EmittedTokens) : Prop :=
  ∃ served, emitted = demand.emitted served ∧ engine.Grants calls fits now demand served

/-- A demand can fail so at an instant. -/
def Fails (engine : Engine) (calls : List Call) (now : Duration) (demand : Demand)
    (error : TokenError) : Prop :=
  engine.Made calls demand now (.error error) ∨ ∃ reason, error = .regenerationFailed reason

/-- A visit is due tokens of a chain with the given settings. -/
structure Due (engine : Engine) (visit : Visit) (chain : Chain) (settings : Settings) : Prop where
  resolves : Plain.resolve engine visit.path = .ok (chain, settings)
  admits : settings.admits visit.path = true

/-- What the reply to a visit can be. -/
inductive Justifies (engine : Engine) (calls : List Call) (fits : String → Kept → Prop)
    (visit : Visit) : Reply → Prop
  | idle (hidle : ∀ chain settings, ¬engine.Due visit chain settings) :
    Justifies engine calls fits visit (.ok none)
  | emitted {chain : Chain} {settings : Settings} {now : Duration} {emission : Emission}
    (hdue : engine.Due visit chain settings) (hclock : visit.clock = .ok now)
    (hsuits : List.Forall₂ (engine.Suits calls fits now) (Demand.ofChain chain settings)
      (emission.main :: emission.named)) :
    Justifies engine calls fits visit (.ok (some emission))
  | clock {chain : Chain} {settings : Settings} {error : TokenError}
    (hdue : engine.Due visit chain settings) (hclock : visit.clock = .error error) :
    Justifies engine calls fits visit (.error error)
  | failed {chain : Chain} {settings : Settings} {now : Duration} {demand : Demand}
    {error : TokenError} (hdue : engine.Due visit chain settings) (hclock : visit.clock = .ok now)
    (hdemand : demand ∈ Demand.ofChain chain settings)
    (hfails : engine.Fails calls now demand error) :
    Justifies engine calls fits visit (.error error)

/-- A visit is due tokens, and its demands have been answered but for those given. -/
def Pursues (engine : Engine) (calls : List Call) (fits : String → Kept → Prop) (visit : Visit)
    (now : Duration) (finished : List EmittedTokens) (demands : List Demand) : Prop :=
  ∃ chain settings settled, engine.Due visit chain settings ∧ visit.clock = .ok now ∧
    Demand.ofChain chain settings = settled ++ demands ∧
      List.Forall₂ (engine.Suits calls fits now) settled finished

/-- A visit pursues the demands of its request. -/
def PursuesRequest (engine : Engine) (calls : List Call) (fits : String → Kept → Prop)
    (visit : Visit) (request : Request) : Prop :=
  engine.Pursues calls fits visit request.now request.finished (request.demand :: request.pending)

/-- What is told about the demand in hand fits its key. -/
def Request.Told (fits : String → Kept → Prop) (labels : List String) (request : Request)
    (told : Instruction) : Prop :=
  told.Fits fits labels (request.demand.lookup request.now)

namespace Stage

/-- What holds at each stage of a visit. -/
def Sound (engine : Engine) (calls : List Call) (fits : String → Kept → Prop)
    (labels : List String) (visit : Visit) : Stage → Prop
  | asking request => engine.PursuesRequest calls fits visit request
  | generating guard request =>
    engine.PursuesRequest calls fits visit request ∧ request.Told fits labels (.generate guard)
  | drawing draw request =>
    engine.PursuesRequest calls fits visit request ∧
      request.Told fits labels (.generate draw.guard) ∧
        request.demand.settings.validate = .ok () ∧ 0 < draw.number
  | holding guard result request =>
    engine.PursuesRequest calls fits visit request ∧ request.Told fits labels (.generate guard) ∧
      engine.Made calls request.demand request.now result
  | waiting generation request =>
    engine.PursuesRequest calls fits visit request ∧ request.Told fits labels (.wait generation)
  | answered reply => engine.Justifies calls fits visit reply
  | brokenDown => ∃ chain settings, engine.Due visit chain settings

end Stage

variable {engine : Engine} {calls : List Call} {fits : String → Kept → Prop} {labels : List String}
  {visit : Visit} {state : State} {request : Request}

/-! ### More labels -/

theorem Request.Told.append {told : Instruction} (htold : request.Told fits labels told)
    (more : List String) : request.Told fits (labels ++ more) told := by
  cases told with
  | served answer => exact htold
  | wait generation => exact ⟨htold.1, getElem?_append_of_eq_some htold.2 more⟩
  | generate guard => exact ⟨htold.1, fun given hgiven ↦ (htold.2 given hgiven).append more⟩

theorem Stage.Sound.append {stage : Stage} (hsound : stage.Sound engine calls fits labels visit)
    (more : List String) : stage.Sound engine calls fits (labels ++ more) visit := by
  cases stage with
  | asking request => exact hsound
  | generating guard request => exact ⟨hsound.1, hsound.2.append more⟩
  | drawing draw request => exact ⟨hsound.1, hsound.2.1.append more, hsound.2.2⟩
  | holding guard result request => exact ⟨hsound.1, hsound.2.1.append more, hsound.2.2⟩
  | waiting generation request => exact ⟨hsound.1, hsound.2.append more⟩
  | answered reply => exact hsound
  | brokenDown => exact hsound

/-- A visit that is not due any tokens has been told so. -/
theorem Stage.Sound.eq_idle {stage : Stage} (hsound : stage.Sound engine calls fits labels visit)
    (hidle : ∀ chain settings, ¬engine.Due visit chain settings) :
    stage = .answered (.ok none) := by
  have hrequest : ¬∃ request, engine.PursuesRequest calls fits visit request :=
    fun ⟨_, chain, settings, _, hdue, _⟩ ↦ hidle chain settings hdue
  cases stage with
  | asking request => exact absurd ⟨request, hsound⟩ hrequest
  | generating guard request => exact absurd ⟨request, hsound.1⟩ hrequest
  | drawing draw request => exact absurd ⟨request, hsound.1⟩ hrequest
  | holding guard result request => exact absurd ⟨request, hsound.1⟩ hrequest
  | waiting generation request => exact absurd ⟨request, hsound.1⟩ hrequest
  | answered reply =>
    cases hsound with
    | idle => rfl
    | emitted hdue => exact absurd hdue (hidle _ _)
    | clock hdue => exact absurd hdue (hidle _ _)
    | failed hdue => exact absurd hdue (hidle _ _)
  | brokenDown =>
    obtain ⟨chain, settings, hdue⟩ := hsound
    exact absurd hdue (hidle chain settings)

/-! ### From one stage to the next -/

theorem PursuesRequest.hasDemand (hpursues : engine.PursuesRequest calls fits visit request) :
    engine.HasDemand request.demand := by
  obtain ⟨chain, settings, settled, hdue, -, hdemands, -⟩ := hpursues
  refine ⟨visit.path, chain, settings, hdue.resolves, ?_⟩
  rw [hdemands]
  exact List.mem_append_right _ List.mem_cons_self

theorem Pursues.next {now : Duration} {finished : List EmittedTokens} {demands : List Demand}
    (hpursues : engine.Pursues calls fits visit now finished demands) :
    (Stage.next now finished demands).Sound engine calls fits labels visit := by
  cases demands with
  | cons demand pending => exact hpursues
  | nil =>
    obtain ⟨chain, settings, settled, hdue, hclock, hdemands, hsuits⟩ := hpursues
    rw [List.append_nil] at hdemands
    rw [← hdemands] at hsuits
    cases finished with
    | nil => cases hsuits
    | cons main named =>
      show engine.Justifies calls fits visit (.ok (some ⟨main, named⟩))
      exact .emitted hdue hclock hsuits

/-- What the cache holds fits its keys, and what is remembered is right. -/
structure State.Sound (engine : Engine) (fits : String → Kept → Prop) (labels : List String)
    (state : State) : Prop where
  cache : state.cache.Fitting fits labels
  memo : engine.Remembers state.resolutions

/-- A stage and a state are sound, perhaps with further labels. -/
def SoundAfter (engine : Engine) (calls : List Call) (fits : String → Kept → Prop)
    (labels : List String) (visit : Visit) (next : Stage × State) : Prop :=
  ∃ more, next.1.Sound engine calls fits (labels ++ more) visit ∧
    next.2.Sound engine fits (labels ++ more)

theorem soundAfter_same {next : Stage × State}
    (hstage : next.1.Sound engine calls fits labels visit)
    (hstate : next.2.Sound engine fits labels) :
    engine.SoundAfter calls fits labels visit next := by
  refine ⟨[], ?_⟩
  rw [List.append_nil]
  exact ⟨hstage, hstate⟩

/-- What is counted and reported does not matter. -/
theorem State.Sound.recordServed (hstate : state.Sound engine fits labels) (served : Served) :
    (state.recordServed served).Sound engine fits labels := by
  unfold State.recordServed
  split
  · exact ⟨hstate.cache, hstate.memo⟩
  · exact ⟨hstate.cache, hstate.memo⟩

/-- A visit goes on with an answer that the demand in hand can have. -/
theorem soundAfter_settle (hstate : state.Sound engine fits labels)
    (hpursues : engine.PursuesRequest calls fits visit request) {answer : Except TokenError Served}
    (hok : ∀ served, answer = .ok served →
      engine.Grants calls fits request.now request.demand served)
    (herror : ∀ error, answer = .error error →
      engine.Fails calls request.now request.demand error) :
    engine.SoundAfter calls fits labels visit (Stage.settle request answer state) := by
  obtain ⟨chain, settings, settled, hdue, hclock, hdemands, hsuits⟩ := hpursues
  cases answer with
  | error error =>
    refine soundAfter_same (.failed hdue hclock ?_ (herror error rfl)) ⟨hstate.cache, hstate.memo⟩
    rw [hdemands]
    exact List.mem_append_right _ List.mem_cons_self
  | ok served =>
    refine soundAfter_same (Pursues.next ⟨chain, settings, settled ++ [request.demand], hdue,
      hclock, ?_, ?_⟩) (hstate.recordServed served)
    · rw [hdemands, List.append_assoc]
      rfl
    · exact List.rel_append hsuits (.cons ⟨served, rfl, hok served rfl⟩ .nil)

theorem soundAfter_ask (hstate : state.Sound engine fits labels)
    (hpursues : engine.PursuesRequest calls fits visit request) :
    engine.SoundAfter calls fits labels visit (Stage.ask request state) := by
  obtain ⟨more, hcache, htold⟩ := hstate.cache.consult (request.demand.lookup request.now)
  cases hconsult : state.cache.consult (request.demand.lookup request.now) with
  | mk told cache =>
    rw [hconsult] at hcache htold
    have hafter : ({ state with cache := cache } : State).Sound engine fits (labels ++ more) :=
      ⟨hcache, hstate.memo⟩
    cases told with
    | served served =>
      obtain ⟨minted, outcome⟩ := served
      obtain ⟨hlifetime, expiresAt, hfits, houtcome⟩ := htold
      have hgrants : engine.Grants calls fits request.now request.demand ⟨minted, outcome⟩ := by
        rcases houtcome with rfl | ⟨rfl, hfresh⟩
        · exact .stale hlifetime hfits
        · exact .hit hlifetime hfits hfresh
      have hask : Stage.ask request state =
          Stage.settle request (.ok ⟨minted, outcome⟩) { state with cache := cache } := by
        simp only [Stage.ask, hconsult]
      obtain ⟨others, hnext⟩ := soundAfter_settle hafter hpursues
        (fun served hserved ↦ Except.ok.inj hserved ▸ hgrants) (by simp)
      refine ⟨more ++ others, ?_⟩
      rw [hask, ← List.append_assoc]
      exact hnext
    | wait generation =>
      have hask : Stage.ask request state =
          (.waiting generation request, { state with cache := cache }) := by
        simp only [Stage.ask, hconsult]
      rw [hask]
      exact ⟨more, ⟨hpursues, htold⟩, hafter⟩
    | generate guard =>
      have hask : Stage.ask request state =
          (.generating guard request, { state with cache := cache }) := by
        simp only [Stage.ask, hconsult]
      rw [hask]
      exact ⟨more, ⟨hpursues, htold⟩, hafter⟩

theorem soundAfter_announce (hstate : state.Sound engine fits labels)
    (hpursues : engine.PursuesRequest calls fits visit request) {guard : Option Guard}
    (htold : request.Told fits labels (.generate guard))
    (hcalls : (Stage.announce guard request state).1.call?.toList ⊆ calls) :
    engine.SoundAfter calls fits labels visit (Stage.announce guard request state) := by
  unfold Stage.announce at hcalls ⊢
  cases hvalid : request.demand.settings.validate with
  | error fault =>
    rw [hvalid] at hcalls
    refine soundAfter_same ⟨hpursues, htold, hcalls List.mem_cons_self, .none, ?_⟩ hstate
    simp only [Settings.mint, hvalid]
  | ok =>
    exact soundAfter_same ⟨hpursues, htold, hvalid, Nat.succ_pos _⟩ ⟨hstate.cache, hstate.memo⟩

/-- What is drawn depends on how many bytes have been taken before. -/
theorem draw_eq_of_taken_eq (source : EntropySource) (number size : Nat) (use other : EntropyUse)
    (htaken : use.taken = other.taken) :
    (source.draw number size use).1 = (source.draw number size other).1 := by
  unfold EntropySource.draw
  cases source.failure number <;> simp [htaken]

/-- A draw that was announced before others and is made after them is one of minting at once. -/
theorem mints_take {draw : Draw} (hvalid : request.demand.settings.validate = .ok ())
    (hnumber : 0 < draw.number) (state : State) :
    engine.Mints request.demand request.now
      ((engine.source.draw draw.number request.demand.settings.bytesPerDraw state.entropy).1.bind
        (request.demand.settings.assemble request.demand.key request.now)) := by
  have hannounced : (List.replicate (draw.number - 1) 0).length + 1 = draw.number := by
    rw [List.length_replicate]
    omega
  refine ⟨⟨state.entropy.taken, List.replicate (draw.number - 1) 0⟩, ?_⟩
  have hdrawn := draw_eq_of_taken_eq engine.source draw.number request.demand.settings.bytesPerDraw
    (.mk state.entropy.taken
      (List.replicate (draw.number - 1) 0 ++ [request.demand.settings.bytesPerDraw]))
    state.entropy rfl
  simp only [Settings.mint, hvalid, EntropyUse.announce, hannounced, hdrawn]

theorem soundAfter_take (hstate : state.Sound engine fits labels)
    (hpursues : engine.PursuesRequest calls fits visit request) {draw : Draw}
    (htold : request.Told fits labels (.generate draw.guard))
    (hvalid : request.demand.settings.validate = .ok ()) (hnumber : 0 < draw.number)
    (hcalls : (Stage.take engine draw request state).1.call?.toList ⊆ calls) :
    engine.SoundAfter calls fits labels visit (Stage.take engine draw request state) :=
  soundAfter_same
    ⟨hpursues, htold, hcalls List.mem_cons_self, mints_take hvalid hnumber state⟩
    ⟨hstate.cache, hstate.memo⟩

theorem soundAfter_deliver (hcovers : engine.CoversCalls calls fits)
    (hstate : state.Sound engine fits labels)
    (hpursues : engine.PursuesRequest calls fits visit request) {guard : Option Guard}
    (htold : request.Told fits labels (.generate guard)) {result : Except TokenError Minted}
    (hmade : engine.Made calls request.demand request.now result) :
    engine.SoundAfter calls fits labels visit (Stage.deliver guard result request state) := by
  obtain ⟨hguard, hgiven⟩ := htold
  have hkept : ∀ minted, guard.isSome = true → result = .ok minted →
      fits request.demand.key ⟨minted, request.now + request.demand.settings.ttl⟩ := by
    rintro minted hsome rfl
    refine hcovers _ _ _ hpursues.hasDemand ?_ hmade
    cases guard with
    | none => simp at hsome
    | some guard => exact hguard.symm
  have hafter : ({ state with
      cache := (state.cache.deliver (request.demand.lookup request.now) guard result).2 } :
        State).Sound engine fits labels :=
    ⟨hstate.cache.deliver hgiven hkept, hstate.memo⟩
  refine soundAfter_settle hafter hpursues ?_ ?_
  · intro served hserved
    cases result with
    | error error => cases guard <;> simp at hserved
    | ok minted =>
      cases guard with
      | none =>
        obtain rfl := Except.ok.inj hserved
        exact .bypassed hguard.symm hmade
      | some guard =>
        obtain rfl := Except.ok.inj hserved
        exact .generated hguard.symm hmade
  · intro error herror
    cases result with
    | ok minted => cases guard <;> simp at herror
    | error reason =>
      obtain rfl : reason = error := by cases guard <;> simpa [Cache.deliver] using herror
      exact .inl hmade

theorem soundAfter_look (hstate : state.Sound engine fits labels)
    (hpursues : engine.PursuesRequest calls fits visit request) {generation : Nat}
    (htold : request.Told fits labels (.wait generation)) :
    engine.SoundAfter calls fits labels visit (Stage.look generation request state) := by
  unfold Stage.look
  cases hanswer : state.cache.await? generation with
  | none => exact soundAfter_same ⟨hpursues, htold⟩ hstate
  | some answer =>
    obtain ⟨verdict, hverdict, rfl⟩ := hstate.cache.await? htold.2 hanswer
    refine soundAfter_settle hstate hpursues ?_ ?_
    · intro served hserved
      cases verdict with
      | error error => simp [Except.map] at hserved
      | ok minted =>
        obtain rfl := Except.ok.inj hserved
        obtain ⟨expiresAt, hfits⟩ := hverdict
        exact .awaited htold.1 hfits
    · intro error herror
      cases verdict with
      | ok minted => simp [Except.map] at herror
      | error reason =>
        obtain rfl := Except.error.inj herror
        exact .inr hverdict

/-- A visitor that goes on keeps to what holds at its stage. -/
theorem soundAfter_advance (hcovers : engine.CoversCalls calls fits)
    (hstate : state.Sound engine fits labels) {stage : Stage}
    (hstage : stage.Sound engine calls fits labels visit)
    (hcalls : (stage.advance engine state).1.call?.toList ⊆ calls) :
    engine.SoundAfter calls fits labels visit (stage.advance engine state) := by
  cases stage with
  | asking request => exact soundAfter_ask hstate hstage
  | generating guard request => exact soundAfter_announce hstate hstage.1 hstage.2 hcalls
  | drawing draw request =>
    exact soundAfter_take hstate hstage.1 hstage.2.1 hstage.2.2.1 hstage.2.2.2 hcalls
  | holding guard result request =>
    exact soundAfter_deliver hcovers hstate hstage.1 hstage.2.1 hstage.2.2
  | waiting generation request => exact soundAfter_look hstate hstage.1 hstage.2
  | answered reply => exact soundAfter_same hstage hstate
  | brokenDown => exact soundAfter_same hstage hstate

theorem Stage.Sound.of_hold? {stage : Stage} (hstage : stage.Sound engine calls fits labels visit)
    {guard : Option Guard} (hhold : stage.hold? = some (guard, request)) :
    engine.PursuesRequest calls fits visit request ∧
      request.Told fits labels (.generate guard) := by
  cases stage with
  | generating other asked =>
    obtain ⟨rfl, rfl⟩ := Prod.mk.inj (Option.some.inj hhold)
    exact hstage
  | drawing draw asked =>
    obtain ⟨rfl, rfl⟩ := Prod.mk.inj (Option.some.inj hhold)
    exact ⟨hstage.1, hstage.2.1⟩
  | holding other result asked =>
    obtain ⟨rfl, rfl⟩ := Prod.mk.inj (Option.some.inj hhold)
    exact ⟨hstage.1, hstage.2.1⟩
  | asking | waiting | answered | brokenDown => simp [Stage.hold?] at hhold

theorem soundAfter_breakDown (hstate : state.Sound engine fits labels) {stage : Stage}
    (hstage : stage.Sound engine calls fits labels visit) :
    engine.SoundAfter calls fits labels visit (stage.breakDown state) := by
  unfold Stage.breakDown
  cases hhold : stage.hold? with
  | none => exact soundAfter_same hstage hstate
  | some held =>
    obtain ⟨⟨chain, settings, -, hdue, -⟩, htold⟩ := hstage.of_hold? hhold
    exact soundAfter_same ⟨chain, settings, hdue⟩ ⟨hstate.cache.abandon htold.2, hstate.memo⟩

/-! ### Arrivals and other actions -/

theorem isInactive_of_plain_resolve {path : String} {error : TokenError}
    (hresolve : Plain.resolve engine path = .error error) : error.isInactive = true := by
  unfold Plain.resolve at hresolve
  cases hchain : engine.tree.chain path with
  | error reason =>
    simp only [hchain, bind, Except.bind] at hresolve
    obtain rfl := Except.error.inj hresolve
    obtain ⟨-, rfl⟩ := (engine.tree.chain_eq_error_iff path reason).1 hchain
    rfl
  | ok chain =>
    cases hvalid : (chain.settings engine.root).validate with
    | error fault =>
      simp only [hchain, hvalid, liftFault, bind, Except.bind] at hresolve
      obtain rfl := Except.error.inj hresolve
      rfl
    | ok => simp [hchain, hvalid, liftFault, bind, Except.bind, pure, Except.pure] at hresolve

theorem State.Sound.resolve (hstate : state.Sound engine fits labels) (path : String) :
    (engine.resolve path state).2.Sound engine fits labels := by
  refine ⟨?_, (hstate.memo.resolve path).2⟩
  rw [cache_resolve]
  exact hstate.cache

/-- Whoever is let in is told at once that no tokens are due, or pursues the demands of a chain. -/
theorem soundAfter_receive (hstate : state.Sound engine fits labels) (visit : Visit) :
    engine.SoundAfter calls fits labels visit (engine.receive visit state) := by
  have hresolve := (hstate.memo.resolve visit.path).1
  have hafter := hstate.resolve visit.path
  unfold receive
  cases hresolved : engine.resolve visit.path state with
  | mk resolved after =>
    rw [hresolved] at hresolve hafter
    have hrecorded : (after.record .inactive).Sound engine fits labels :=
      ⟨hafter.cache, hafter.memo⟩
    cases resolved with
    | error error =>
      have hidle : engine.Justifies calls fits visit (.ok none) := by
        refine .idle fun chain settings hdue ↦ ?_
        have hok := hdue.resolves
        rw [← hresolve] at hok
        simp at hok
      -- A path that is not resolved has no tokens, whatever the reason.
      simp only [isInactive_of_plain_resolve hresolve.symm, if_true]
      exact soundAfter_same hidle hrecorded
    | ok resolved =>
      obtain ⟨chain, settings⟩ := resolved
      cases hadmits : settings.admits visit.path with
      | false =>
        have hidle : engine.Justifies calls fits visit (.ok none) := by
          refine .idle fun other otherSettings hdue ↦ ?_
          have hok := hdue.resolves
          rw [← hresolve] at hok
          obtain ⟨rfl, rfl⟩ := Prod.mk.inj (Except.ok.inj hok)
          exact absurd hdue.admits (by simp [hadmits])
        simp only [hadmits, Bool.false_eq_true, if_false]
        exact soundAfter_same hidle hrecorded
      | true =>
        have hdue : engine.Due visit chain settings := ⟨hresolve.symm, hadmits⟩
        simp only [hadmits, if_true]
        have hread (shown : Except TokenError Duration) :
            (after.readClock shown).2.Sound engine fits labels := ⟨hafter.cache, hafter.memo⟩
        cases hclock : visit.clock with
        | error error => exact soundAfter_same (.clock hdue hclock) (hread (.error error))
        | ok now =>
          exact soundAfter_same (Pursues.next ⟨chain, settings, [], hdue, hclock, rfl, .nil⟩)
            (hread (.ok now))

/-- An action that is no request keeps the state sound, if it puts nothing into the cache that does
not fit. -/
theorem State.Sound.begin (hstate : state.Sound engine fits labels) {action : Session.Action}
    (hrequest : Service.isRequest action = false)
    (hforeign : Service.isForeign action = true → ∀ key kept, fits key kept) :
    ∃ more, (Session.begin engine action state).2.Sound engine fits (labels ++ more) := by
  have hsame {next : State} (hnext : next.Sound engine fits labels) :
      ∃ more, next.Sound engine fits (labels ++ more) :=
    ⟨[], by rw [List.append_nil]; exact hnext⟩
  cases action with
  | mint path => simp [Service.isRequest] at hrequest
  | handle path => simp [Service.isRequest] at hrequest
  | resolve path => exact hsame (hstate.resolve path)
  | stats => exact hsame ⟨hstate.cache, hstate.memo⟩
  | setClock clock => exact hsame ⟨hstate.cache, hstate.memo⟩
  | metrics => exact hsame hstate
  | resetMetrics => exact hsame ⟨hstate.cache, hstate.memo⟩
  | lookup lookup tokens signatures =>
    obtain ⟨more, hcache, htold⟩ := hstate.cache.consult lookup
    refine ⟨more, ?_⟩
    simp only [Session.begin, Session.lookupNow]
    cases hconsult : state.cache.consult lookup with
    | mk told cache =>
      rw [hconsult] at hcache htold
      cases told with
      | served served => exact ⟨hcache, hstate.memo⟩
      | wait generation => exact ⟨hcache, hstate.memo⟩
      | generate guard =>
        exact ⟨hcache.deliver htold.2 fun _ _ _ ↦ hforeign rfl _ _, hstate.memo⟩

end Engine

namespace Service

open Engine (Call)

variable {engine : Engine} {fits : String → Kept → Prop} {labels : List String} {service : Service}

/-- Every visitor keeps to what holds at its stage. -/
structure Sound (engine : Engine) (calls : List Call) (fits : String → Kept → Prop)
    (labels : List String) (service : Service) : Prop where
  state : service.state.Sound engine fits labels
  visitors : ∀ visitor ∈ service.visitors,
    visitor.stage.Sound engine calls fits labels visitor.visit

theorem sound_initial (engine : Engine) (calls : List Call) (fits : String → Kept → Prop)
    (policy : Policy) (clock : Except TokenError Duration) (collector : Collector) :
    (initial policy clock collector).Sound engine calls fits [] where
  state := ⟨Cache.fitting_empty fits policy, Engine.remembers_empty engine⟩
  visitors := by simp [initial]

/-- A step of one visitor leaves the others where they were. -/
theorem Sound.after {calls : List Call} (hcovers : engine.CoversCalls calls fits)
    (hsound : service.Sound engine calls fits labels) {step : Step}
    (hcalls : service.callsOf engine step ⊆ calls)
    (hforeign : ∀ action, step = .act action → isForeign action = true →
      ∀ key kept, fits key kept) :
    ∃ more, (service.after engine step).Sound engine calls fits (labels ++ more) := by
  have hothers (more : List String) : ∀ visitor ∈ service.visitors,
      visitor.stage.Sound engine calls fits (labels ++ more) visitor.visit :=
    fun visitor hvisitor ↦ (hsound.visitors visitor hvisitor).append more
  have hmove {position : Nat} {visit : Visit} {next : Engine.Stage × Engine.State}
      (hnext : engine.SoundAfter calls fits labels visit next) :
      ∃ more, (service.move position visit next).Sound engine calls fits (labels ++ more) := by
    obtain ⟨more, hstage, hstate⟩ := hnext
    refine ⟨more, hstate, fun visitor hvisitor ↦ ?_⟩
    rcases List.mem_or_eq_of_mem_set hvisitor with hold | rfl
    · exact hothers more visitor hold
    · exact hstage
  rcases service.after_cases step with hidle | ⟨visit, -, harrive⟩ |
    ⟨position, visit, stage, rfl, hvisitor, hadvance⟩ |
    ⟨position, visit, stage, -, hvisitor, hbreakDown⟩ | ⟨action, hact, hrequest, hafter⟩
  · rw [hidle]
    exact ⟨[], by rw [List.append_nil]; exact hsound⟩
  · rw [harrive]
    obtain ⟨more, hstage, hstate⟩ := Engine.soundAfter_receive hsound.state visit
    refine ⟨more, hstate, fun visitor hvisitor ↦ ?_⟩
    rcases List.mem_append.1 hvisitor with hold | hnew
    · exact hothers more visitor hold
    · obtain rfl := List.mem_singleton.1 hnew
      exact hstage
  · rw [callsOf_advance hvisitor] at hcalls
    rw [hadvance]
    exact hmove (Engine.soundAfter_advance hcovers hsound.state
      (hsound.visitors _ (List.mem_of_getElem? hvisitor)) hcalls)
  · rw [hbreakDown]
    exact hmove (Engine.soundAfter_breakDown hsound.state
      (hsound.visitors _ (List.mem_of_getElem? hvisitor)))
  · rw [hafter]
    obtain ⟨more, hstate⟩ := hsound.state.begin hrequest (hforeign action hact)
    exact ⟨more, hstate, hothers more⟩

theorem Sound.afterAll {calls : List Call} (hcovers : engine.CoversCalls calls fits)
    (hsound : service.Sound engine calls fits labels) {steps : List Step}
    (hcalls : callsFrom engine service steps ⊆ calls)
    (hforeign : ∀ action, .act action ∈ steps → isForeign action = true →
      ∀ key kept, fits key kept) :
    ∃ more, (service.afterAll engine steps).Sound engine calls fits (labels ++ more) := by
  induction steps generalizing service labels with
  | nil => exact ⟨[], by rw [List.append_nil]; exact hsound⟩
  | cons step rest ih =>
    obtain ⟨hnow, hlater⟩ := List.append_subset.1 hcalls
    have hfirst : ∀ action, step = .act action → isForeign action = true →
        ∀ key kept, fits key kept :=
      fun action hact ↦ hforeign action (hact ▸ List.mem_cons_self)
    obtain ⟨more, hnext⟩ := hsound.after hcovers hnow hfirst
    obtain ⟨others, hlast⟩ := ih hnext hlater fun action hact ↦
      hforeign action (List.mem_cons_of_mem _ hact)
    refine ⟨more ++ others, ?_⟩
    rw [afterAll_cons, ← List.append_assoc]
    exact hlast

/-- What holds at the stages of all visitors of a run, if what fits covers the calls of this run. -/
theorem sound_run_of_coversCalls (policy : Policy) (clock : Except TokenError Duration)
    (collector : Collector) (steps : List Step)
    (hcovers : engine.CoversCalls (calls engine policy clock collector steps) fits)
    (hforeign : ∀ action, .act action ∈ steps → isForeign action = true →
      ∀ key kept, fits key kept) :
    ∃ labels, (run engine policy clock collector steps).Sound engine
      (calls engine policy clock collector steps) fits labels :=
  (sound_initial engine _ fits policy clock collector).afterAll hcovers (List.Subset.refl _)
    hforeign

/-- What holds at the stages of all visitors of a run. Every reply, above all, is justified. -/
theorem sound_run (hcovers : engine.Covers fits) (policy : Policy)
    (clock : Except TokenError Duration) (collector : Collector) (steps : List Step)
    (hforeign : ∀ action, .act action ∈ steps → isForeign action = true →
      ∀ key kept, fits key kept) :
    ∃ labels, (run engine policy clock collector steps).Sound engine
      (calls engine policy clock collector steps) fits labels :=
  sound_run_of_coversCalls policy clock collector steps (hcovers.coversCalls _) hforeign

/-- What holds at the stages of all visitors if the engine alone uses its cache. -/
theorem sound_run_own (hcovers : engine.Covers fits) (policy : Policy)
    (clock : Except TokenError Duration) (collector : Collector) (steps : List Step)
    (hown : ∀ action, .act action ∈ steps → isForeign action = false) :
    ∃ labels, (run engine policy clock collector steps).Sound engine
      (calls engine policy clock collector steps) fits labels :=
  sound_run hcovers policy clock collector steps fun action haction hforeign ↦
    absurd (hown action haction) (by simp [hforeign])

/-- What holds at the stages of all visitors if nothing need be known about the tokens that are
kept. -/
theorem sound_run_any (engine : Engine) (policy : Policy) (clock : Except TokenError Duration)
    (collector : Collector) (steps : List Step) :
    ∃ labels, (run engine policy clock collector steps).Sound engine
      (calls engine policy clock collector steps) (fun _ _ ↦ True) labels := by
  have hcovers : engine.Covers fun _ _ ↦ True := fun _ _ _ _ _ _ ↦ trivial
  exact sound_run hcovers policy clock collector steps fun _ _ _ _ _ ↦ trivial

/-- What is remembered in any state of a run is right. -/
theorem remembers_run (engine : Engine) (policy : Policy) (clock : Except TokenError Duration)
    (collector : Collector) (steps : List Step) :
    engine.Remembers (run engine policy clock collector steps).state.resolutions := by
  obtain ⟨labels, hsound⟩ := sound_run_any engine policy clock collector steps
  exact hsound.state.memo

end Service

end TokenMint
