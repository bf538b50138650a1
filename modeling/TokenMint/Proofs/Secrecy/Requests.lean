import TokenMint.Proofs.Engine.Service
import TokenMint.Proofs.Secrecy.Cache
import TokenMint.Proofs.Secrecy.Settings
import TokenMint.Proofs.Settings.Minting

/-!
# Requests with keys and signatures masked

A key is used in one place alone: what is made of drawn bytes is signed with it. Whether there is a
signature does not depend on the key, so tokens that are made with masked settings are the same once
the signatures are masked (`Settings.assemble_masked`). Whatever else an engine does for a request
goes through masking: it resolves a path to the masked settings and tells the operator the same
(`Engine.resolve_masked`), and a visitor goes from one stage to the next as the masked visitor does
at the masked engine, if signatures are masked as they are made (`Engine.Stage.masked_advance`).
-/

set_option autoImplicit false
set_option relaxedAutoImplicit false

namespace TokenMint

/-! ### What is handed over -/

/-- The emitted tokens with their signatures masked. -/
def EmittedTokens.masked (emitted : EmittedTokens) : EmittedTokens :=
  { emitted with served := emitted.served.masked }

/-- The emission with all its signatures masked. -/
def Emission.masked (emission : Emission) : Emission :=
  ⟨emission.main.masked, emission.named.map EmittedTokens.masked⟩

theorem NameStyle.targets_assignments (style : NameStyle) (base : Option String)
    (position : Option Nat) (token : String) (signature : Option String) :
    (style.assignments base position token (signature.map fun _ ↦ "")).map Assignment.target =
      (style.assignments base position token signature).map Assignment.target := by
  cases base <;> cases signature <;> rfl

theorem EmittedTokens.targets_masked (emitted : EmittedTokens) :
    emitted.masked.assignments.map Assignment.target =
      emitted.assignments.map Assignment.target := by
  have htoken (token : String) (index : Nat) :
      (emitted.masked.tokenAssignments token index).map Assignment.target =
        (emitted.tokenAssignments token index).map Assignment.target := by
    have hsignature : emitted.masked.served.minted.signatures[index]? =
        emitted.served.minted.signatures[index]?.map fun _ ↦ "" := List.getElem?_map
    unfold tokenAssignments
    rw [hsignature]
    simp only [List.map_append, NameStyle.targets_assignments]
    rfl
  unfold assignments
  rw [List.map_flatMap, List.map_flatMap]
  simp only [htoken]
  rfl

/-- Values are written to the same targets, whatever the signatures are. -/
theorem Emission.targets_masked (emission : Emission) :
    emission.masked.assignments.map Assignment.target =
      emission.assignments.map Assignment.target := by
  have hnamed : (emission.named.map EmittedTokens.masked).flatMap
        (fun emitted ↦ emitted.assignments.map Assignment.target) =
      emission.named.flatMap fun emitted ↦ emitted.assignments.map Assignment.target := by
    rw [List.flatMap_map]
    simp only [EmittedTokens.targets_masked]
  simp only [assignments, List.map_append, List.map_flatMap, masked, hnamed,
    EmittedTokens.targets_masked]

/-! ### Minting -/

/-- How many signatures there are has nothing to do with the key. -/
theorem Settings.signatures_masked (settings : Settings) (scope : String) (now : Duration)
    (tokens : List String) :
    (settings.masked.signatures scope now tokens).map (List.map fun _ ↦ "") =
      (settings.signatures scope now tokens).map (List.map fun _ ↦ "") := by
  have hsigned (settings : Settings) (key : SigningKey) :
      (tokens.mapM (settings.signature key scope now)).map (List.map fun _ ↦ "") =
        .ok (tokens.map fun _ ↦ "") := by
    -- A key never fails to sign.
    obtain ⟨texts, htexts⟩ : ∃ texts, tokens.mapM (settings.signature key scope now) = .ok texts :=
      exists_mapM fun token _ ↦ ⟨_, rfl⟩
    have hlength := ((mapM_eq_ok_iff _ _ _).1 htexts).length_eq
    simp only [htexts, Except.map, List.map_const', hlength]
  unfold signatures
  cases hkey : settings.signingKey with
  | none => simp only [masked, hkey, Option.map_none]
  | some key =>
    simp only [masked, hkey, Option.map_some]
    split
    · rw [hsigned, hsigned]
    · rfl

theorem Settings.assemble_masked (settings : Settings) (scope : String) (now : Duration)
    (raw : List UInt8) :
    (settings.masked.assemble scope now raw).map Minted.masked =
      (settings.assemble scope now raw).map Minted.masked := by
  have htokens : (chunks settings.masked.bytesPerToken settings.masked.count raw).mapM
      (settings.masked.tokenText now) =
        (chunks settings.bytesPerToken settings.count raw).mapM (settings.tokenText now) := rfl
  simp only [assemble, htokens]
  cases (chunks settings.bytesPerToken settings.count raw).mapM (settings.tokenText now) with
  | error fault => rfl
  | ok tokens =>
    have hsignatures := settings.signatures_masked scope now tokens
    simp only [liftFault, bind, Except.bind]
    cases hplain : settings.signatures scope now tokens <;>
      cases hmasked : settings.masked.signatures scope now tokens <;>
        simp_all [Except.map, pure, Except.pure, Minted.masked]

namespace Engine

/-! ### Resolving -/

theorem resolution_masked (engine : Engine) (chain : Chain) :
    engine.masked.resolution chain.masked = (engine.resolution chain).map Settings.masked := by
  simp only [resolution, settings_masked, Settings.validate_masked]
  cases (chain.settings engine.root).validate <;> rfl

theorem resolutionNotices_masked (key : String) (resolution : Resolution) :
    resolutionNotices key (resolution.map Settings.masked) = resolutionNotices key resolution := by
  cases resolution <;> rfl

/-- The state with all its keys and signatures masked. -/
def State.masked (state : State) : State :=
  { state with
    cache := state.cache.masked
    resolutions := state.resolutions.map (Except.map Settings.masked) }

theorem remember_masked (engine : Engine) (chain : Chain) (state : State) :
    engine.masked.remember chain.masked state.masked =
      Prod.map (Except.map Settings.masked) State.masked (engine.remember chain state) := by
  have hget : state.masked.resolutions.get? chain.key =
      (state.resolutions.get? chain.key).map (Except.map Settings.masked) := Table.get?_map _ _ _
  unfold remember
  rw [chain.key_masked, hget]
  cases state.resolutions.get? chain.key with
  | some resolution => rfl
  | none =>
    simp only [Option.map_none, resolution_masked, resolutionNotices_masked, Prod.map_apply,
      State.masked, State.notify, Table.map_insert]

/-- What a path is resolved to, with its keys masked. -/
def maskResolved (resolved : Except TokenError (Chain × Settings)) :
    Except TokenError (Chain × Settings) :=
  resolved.map (Prod.map Chain.masked Settings.masked)

/-- A path is resolved to the masked settings, and the operator is told the same. -/
theorem resolve_masked (engine : Engine) (path : String) (state : State) :
    engine.masked.resolve path state.masked =
      Prod.map maskResolved State.masked (engine.resolve path state) := by
  unfold resolve
  rw [chain_masked]
  cases engine.tree.chain path with
  | error error => rfl
  | ok chain =>
    simp only [Except.map, remember_masked]
    obtain ⟨resolution, after⟩ := engine.remember chain state
    cases resolution <;> rfl

/-! ### Demands and requests -/

/-- The demand with its key masked. -/
def Demand.masked (demand : Demand) : Demand :=
  { demand with settings := demand.settings.masked }

theorem Demand.ofChain_masked (chain : Chain) (settings : Settings) :
    ofChain chain.masked settings.masked = (ofChain chain settings).map masked := by
  simp only [ofChain, List.map_cons, List.map_map, chain.key_masked]
  rfl

/-- The request with all its keys and signatures masked. -/
def Request.masked (request : Request) : Request :=
  ⟨request.now, request.finished.map EmittedTokens.masked, request.demand.masked,
    request.pending.map Demand.masked⟩

/-- The draw with what its guard remembers masked. -/
def Draw.masked (draw : Draw) : Draw :=
  { draw with guard := draw.guard.map Guard.masked }

/-- The reply with all its signatures masked. -/
def Reply.masked (reply : Reply) : Reply :=
  reply.map (Option.map Emission.masked)

theorem emission?_masked (finished : List EmittedTokens) :
    emission? (finished.map EmittedTokens.masked) = (emission? finished).map Emission.masked := by
  cases finished <;> rfl

/-- What is reported about a reply, and the targets of what is written, leave signatures aside. -/
theorem handle_masked (reply : Reply) :
    ((handle reply.masked).1, (handle reply.masked).2.map Assignment.target) =
      ((handle reply).1, (handle reply).2.map Assignment.target) := by
  match reply with
  | .error error => rfl
  | .ok none => rfl
  | .ok (some emission) => exact congrArg (Prod.mk _) emission.targets_masked

namespace Stage

/-- The stage with all its keys and signatures masked. -/
def masked : Stage → Stage
  | asking request => asking request.masked
  | generating guard request => generating (guard.map Guard.masked) request.masked
  | drawing draw request => drawing draw.masked request.masked
  | holding guard result request =>
    holding (guard.map Guard.masked) (result.map Minted.masked) request.masked
  | waiting generation request => waiting generation request.masked
  | answered reply => answered reply.masked
  | brokenDown => brokenDown

theorem reply?_masked (stage : Stage) : stage.masked.reply? = stage.reply?.map Reply.masked := by
  cases stage <;> rfl

theorem next_masked (now : Duration) (finished : List EmittedTokens) (demands : List Demand) :
    next now (finished.map EmittedTokens.masked) (demands.map Demand.masked) =
      (next now finished demands).masked := by
  cases demands with
  | nil => exact congrArg (fun emission ↦ answered (.ok emission)) (emission?_masked finished)
  | cons demand pending => rfl

/-! ### From one stage to the next -/

theorem recordServed_masked (state : State) (served : Served) :
    state.masked.recordServed served.masked = (state.recordServed served).masked := by
  have hfresh : served.masked.outcome.isFresh = served.outcome.isFresh := rfl
  unfold State.recordServed
  rw [hfresh]
  split <;> rfl

theorem settle_masked (request : Request) (answer : Except TokenError Served) (state : State) :
    settle request.masked (answer.map Served.masked) state.masked =
      Prod.map masked State.masked (settle request answer state) := by
  cases answer with
  | error error => rfl
  | ok served =>
    have hnext := next_masked request.now
      (request.finished ++ [request.demand.emitted served]) request.pending
    rw [List.map_append] at hnext
    exact Prod.ext hnext (recordServed_masked state served)

theorem ask_masked (request : Request) (state : State) :
    ask request.masked state.masked = Prod.map masked State.masked (ask request state) := by
  have hconsult : state.masked.cache.consult (request.masked.demand.lookup request.masked.now) =
      Prod.map Instruction.masked Cache.masked
        (state.cache.consult (request.demand.lookup request.now)) :=
    state.cache.consult_masked _
  simp only [ask, hconsult]
  cases state.cache.consult (request.demand.lookup request.now) with
  | mk told cache =>
    cases told with
    | served served => exact settle_masked request (.ok served) { state with cache := cache }
    | wait generation => rfl
    | generate guard => rfl

theorem announce_masked (guard : Option Guard) (request : Request) (state : State) :
    announce (guard.map Guard.masked) request.masked state.masked =
      Prod.map masked State.masked (announce guard request state) := by
  have hvalid : request.masked.demand.settings.validate = request.demand.settings.validate :=
    request.demand.settings.validate_masked
  simp only [announce, hvalid]
  cases request.demand.settings.validate <;> rfl

theorem deliver_masked (guard : Option Guard) (result : Except TokenError Minted)
    (request : Request) (state : State) :
    deliver (guard.map Guard.masked) (result.map Minted.masked) request.masked state.masked =
      Prod.map masked State.masked (deliver guard result request state) := by
  have hdeliver : state.masked.cache.deliver (request.masked.demand.lookup request.masked.now)
      (guard.map Guard.masked) (result.map Minted.masked) =
        Prod.map (Except.map Served.masked) Cache.masked
          (state.cache.deliver (request.demand.lookup request.now) guard result) :=
    state.cache.deliver_masked _ _ _
  simp only [deliver, hdeliver]
  cases state.cache.deliver (request.demand.lookup request.now) guard result with
  | mk answer cache => exact settle_masked request answer { state with cache := cache }

theorem look_masked (generation : Nat) (request : Request) (state : State) :
    look generation request.masked state.masked =
      Prod.map masked State.masked (look generation request state) := by
  have hawait : state.masked.cache.await? generation =
      (state.cache.await? generation).map (Except.map Served.masked) :=
    state.cache.await?_masked generation
  unfold look
  rw [hawait]
  cases state.cache.await? generation with
  | none => rfl
  | some answer => exact settle_masked request answer state

theorem breakDown_masked (stage : Stage) (state : State) :
    stage.masked.breakDown state.masked =
      Prod.map masked State.masked (stage.breakDown state) := by
  have hhold : stage.masked.hold? =
      stage.hold?.map (Prod.map (Option.map Guard.masked) Request.masked) := by
    cases stage <;> rfl
  unfold breakDown
  rw [hhold]
  cases stage.hold? with
  | none => rfl
  | some held =>
    obtain ⟨guard, request⟩ := held
    have habandon := state.cache.abandon_masked (request.demand.lookup request.now) guard
    exact congrArg (fun cache ↦ (brokenDown, { state.masked with cache := cache })) habandon

/-- The stage that follows where signatures are masked as they are made. -/
def advanceMasked (engine : Engine) : Stage → State → Stage × State
  | drawing draw request, state =>
    let settings := request.demand.settings
    let (bytes, entropy) := engine.source.draw draw.number settings.bytesPerDraw state.entropy
    let result := bytes.bind (settings.assemble request.demand.key request.now)
    (holding draw.guard (result.map Minted.masked) request, { state with entropy := entropy })
  | stage, state => stage.advance engine state

/-- A visitor goes on as it does where all keys are masked and signatures are masked as they are
made. -/
theorem masked_advance (engine : Engine) (stage : Stage) (state : State) :
    Prod.map masked State.masked (stage.advance engine state) =
      stage.masked.advanceMasked engine.masked state.masked := by
  cases stage with
  | asking request => exact (ask_masked request state).symm
  | generating guard request => exact (announce_masked guard request state).symm
  | drawing draw request =>
    have hassemble (bytes : Except TokenError (List UInt8)) :
        (bytes.bind (request.demand.settings.masked.assemble request.demand.key request.now)).map
            Minted.masked =
          (bytes.bind (request.demand.settings.assemble request.demand.key request.now)).map
            Minted.masked := by
      cases bytes with
      | error error => rfl
      | ok raw => exact request.demand.settings.assemble_masked _ _ raw
    exact congrArg (fun result ↦ (holding (draw.guard.map Guard.masked) result request.masked, _))
      (hassemble _).symm
  | holding guard result request => exact (deliver_masked guard result request state).symm
  | waiting generation request => exact (look_masked generation request state).symm
  | answered reply => rfl
  | brokenDown => rfl

end Stage

/-! ### Arrivals and other actions -/

theorem receive_masked (engine : Engine) (visit : Visit) (state : State) :
    engine.masked.receive visit state.masked =
      Prod.map Stage.masked State.masked (engine.receive visit state) := by
  unfold receive
  rw [resolve_masked]
  cases engine.resolve visit.path state with
  | mk resolved after =>
    cases resolved with
    | error error =>
      simp only [maskResolved, Except.map, Prod.map_apply]
      split <;> rfl
    | ok resolved =>
      obtain ⟨chain, settings⟩ := resolved
      have hmasked := settings.admits_masked visit.path
      simp only [maskResolved, Except.map, Prod.map_apply]
      cases hadmits : settings.admits visit.path with
      | false =>
        simp only [hmasked, hadmits, Bool.false_eq_true, if_false]
        rfl
      | true =>
        simp only [hmasked, hadmits, if_true]
        cases visit.clock with
        | error error => rfl
        | ok now =>
          rw [Demand.ofChain_masked]
          exact congrArg (·, (after.masked.readClock (.ok now)).2)
            (Stage.next_masked now [] (Demand.ofChain chain settings))

end Engine

end TokenMint
