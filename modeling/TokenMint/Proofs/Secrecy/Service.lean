import TokenMint.Proofs.Secrecy.Requests

/-!
# Keys show in signatures alone

Two engines are built from the same root settings and sources, and from scopes that differ only in
the bytes of their keys. Once they are masked, they are one and the same engine. A step that is
taken at an engine is a step that is taken at the masked engine, if signatures are masked as they
are made (`Service.masked_after`), and so it is with every run (`Service.masked_afterAll`). Nothing
of the keys is left in a masked run, so those of the two engines are the same, and whatever happens,
the two can be told apart by the texts of signatures only (`Service.keys_show_in_signatures_alone`):
not by the replies, the notices to the operator, the counters, the statistics of the cache or the
use of the source.
-/

set_option autoImplicit false
set_option relaxedAutoImplicit false

namespace TokenMint

namespace Engine

/-! ### What is found out about a path -/

/-- What the chain of a path is, whether its settings are accepted, and what is said about them. -/
structure Findings where
  key : String
  indices : List Nat
  verdict : Except ConfigFault Unit
  warnings : List Settings.Warning
  summary : String

/-- What is found out about a path. -/
def findings (engine : Engine) (path : String) : Except TokenError Findings :=
  (engine.tree.chain path).map fun chain ↦
    let settings := chain.settings engine.root
    ⟨chain.key, chain.indices, settings.validate, settings.warnings, settings.summary⟩

theorem findings_masked (engine : Engine) (path : String) :
    engine.masked.findings path = engine.findings path := by
  unfold findings
  rw [chain_masked]
  cases engine.tree.chain path with
  | error error => rfl
  | ok chain =>
    simp only [Except.map, settings_masked, Settings.validate_masked, Settings.warnings_masked,
      Settings.summary_masked, Chain.key_masked, Chain.indices_masked]

/-- What is reported about the reply, and where values are written, once there is a reply. -/
def Stage.handled? (stage : Stage) : Option (Except TokenError Bool × List Target) :=
  stage.reply?.map fun reply ↦ ((handle reply).1, (handle reply).2.map Assignment.target)

theorem Stage.handled?_masked (stage : Stage) : stage.masked.handled? = stage.handled? := by
  simp only [handled?, reply?_masked, Option.map_map, Function.comp_def, handle_masked]

/-- The visitor with all keys and signatures at its stage masked. -/
def Visitor.masked (visitor : Visitor) : Visitor :=
  { visitor with stage := visitor.stage.masked }

end Engine

open Engine (Stage State Visitor)

/-! ### Other actions -/

/-- The action with the signatures that are brought along masked. -/
def Session.Action.masked : Session.Action → Session.Action
  | .lookup asked tokens signatures => .lookup asked tokens (signatures.map fun _ ↦ "")
  | action => action

theorem Session.begin_masked (engine : Engine) {action : Session.Action}
    (hrequest : Service.isRequest action = false) (state : State) :
    (Session.begin engine.masked action.masked state.masked).2 =
      (Session.begin engine action state).2.masked := by
  cases action with
  | mint path => simp [Service.isRequest] at hrequest
  | handle path => simp [Service.isRequest] at hrequest
  | resolve path => exact congrArg Prod.snd (Engine.resolve_masked engine path state)
  | stats | setClock | metrics | resetMetrics => rfl
  | lookup lookup tokens signatures =>
    have hconsult : state.masked.cache.consult lookup =
        Prod.map Instruction.masked Cache.masked (state.cache.consult lookup) :=
      state.cache.consult_masked lookup
    simp only [Session.begin, Session.Action.masked, Session.lookupNow, hconsult]
    cases state.cache.consult lookup with
    | mk told cache =>
      cases told with
      | served served => rfl
      | wait generation => rfl
      | generate guard =>
        have hdeliver := cache.deliver_masked lookup guard (.ok ⟨tokens, signatures, lookup.now⟩)
        exact congrArg (fun next ↦ { state.masked with cache := next.2 }) hdeliver

namespace Service

/-! ### Steps and runs -/

/-- The step with the signatures that are brought along masked. -/
def Step.masked : Step → Step
  | .act action => .act action.masked
  | step => step

/-- The service with all its keys and signatures masked. -/
def masked (service : Service) : Service :=
  ⟨service.state.masked, service.visitors.map Visitor.masked⟩

/-- The service after a step where signatures are masked as they are made. -/
def afterMasked (engine : Engine) (service : Service) : Step → Service
  | .advance position =>
    match service.visitors[position]? with
    | none => service
    | some ⟨visit, stage⟩ =>
      service.move position visit (stage.advanceMasked engine service.state)
  | step => service.after engine step

theorem masked_enter (service : Service) (visit : Visit) (next : Stage × State) :
    (service.enter visit next).masked =
      service.masked.enter visit (Prod.map Stage.masked State.masked next) := by
  simp only [enter, masked, List.map_append]
  rfl

theorem masked_move (service : Service) (position : Nat) (visit : Visit) (next : Stage × State) :
    (service.move position visit next).masked =
      service.masked.move position visit (Prod.map Stage.masked State.masked next) := by
  simp only [move, masked, List.map_set]
  rfl

/-- A step is one of the masked service. -/
theorem masked_after (engine : Engine) (service : Service) (step : Step) :
    (service.after engine step).masked = service.masked.afterMasked engine.masked step.masked := by
  have hvisitor (position : Nat) : service.masked.visitors[position]? =
      service.visitors[position]?.map Visitor.masked := List.getElem?_map
  cases step with
  | arrive visit =>
    have hreceive := Engine.receive_masked engine visit service.state
    exact (masked_enter service visit _).trans (congrArg _ hreceive.symm)
  | advance position =>
    simp only [after, afterMasked, Step.masked, hvisitor]
    cases service.visitors[position]? with
    | none => rfl
    | some visitor =>
      have hadvance := visitor.stage.masked_advance engine service.state
      exact (masked_move service position visitor.visit _).trans (congrArg _ hadvance)
  | breakDown position =>
    simp only [after, afterMasked, Step.masked, hvisitor]
    cases service.visitors[position]? with
    | none => rfl
    | some visitor =>
      have hbreakDown := visitor.stage.breakDown_masked service.state
      exact (masked_move service position visitor.visit _).trans (congrArg _ hbreakDown.symm)
  | act action =>
    have hrequest : isRequest action.masked = isRequest action := by cases action <;> rfl
    simp only [after, afterMasked, Step.masked, hrequest]
    cases haction : isRequest action with
    | true => rfl
    | false =>
      have hbegin := Session.begin_masked engine haction service.state
      exact congrArg (fun state ↦ { service.masked with state := state }) hbegin.symm

theorem masked_afterAll (engine : Engine) (service : Service) (steps : List Step) :
    (service.afterAll engine steps).masked =
      (steps.map Step.masked).foldl (afterMasked engine.masked) service.masked := by
  induction steps generalizing service with
  | nil => rfl
  | cons step rest ih => rw [afterAll_cons, ih, masked_after, List.map_cons, List.foldl_cons]

/-- A masked run depends on the masked engine alone. -/
theorem masked_run_congr {engine other : Engine} (hengines : engine.masked = other.masked)
    (policy : Policy) (clock : Except TokenError Duration) (collector : Collector)
    (steps : List Step) :
    (run engine policy clock collector steps).masked =
      (run other policy clock collector steps).masked := by
  unfold run
  rw [masked_afterAll, masked_afterAll, hengines]

/-! ### What can be told apart -/

/-- Two services of two engines cannot be told apart but by the texts of signatures. -/
structure LooksLike (engine other : Engine) (first second : Service) : Prop where
  visits : first.visitors.map Visitor.visit = second.visitors.map Visitor.visit
  /-- Visitors have the same replies, or none yet, but for the texts of signatures. -/
  replies : (first.visitors.map fun visitor ↦ visitor.stage.reply?.map Engine.Reply.masked) =
    second.visitors.map fun visitor ↦ visitor.stage.reply?.map Engine.Reply.masked
  /-- The same is reported about the replies, and values are written to the same targets. -/
  handled : (first.visitors.map fun visitor ↦ visitor.stage.handled?) =
    second.visitors.map fun visitor ↦ visitor.stage.handled?
  /-- Paths are resolved to the same settings, but for the bytes of keys. -/
  resolved (path : String) : Engine.maskResolved (engine.resolve path first.state).1 =
    Engine.maskResolved (other.resolve path second.state).1
  entropy : first.state.entropy = second.state.entropy
  stats (now : Duration) : first.state.cache.stats now = second.state.cache.stats now
  clock : first.state.clock = second.state.clock
  clockReadings : first.state.clockReadings = second.state.clockReadings
  collector : first.state.collector = second.state.collector
  notices : first.state.notices = second.state.notices

theorem looksLike_of_masked_eq {engine other : Engine} (hengines : engine.masked = other.masked)
    {first second : Service} (hservices : first.masked = second.masked) :
    LooksLike engine other first second := by
  have hstates : first.state.masked = second.state.masked := congrArg Service.state hservices
  have hcaches : first.state.cache.masked = second.state.cache.masked :=
    congrArg State.cache hstates
  have hvisitors : first.visitors.map Visitor.masked = second.visitors.map Visitor.masked :=
    congrArg Service.visitors hservices
  -- What can be seen of masked visitors is the same of the visitors of both services.
  have hseen {α : Type} (see seeMasked : Visitor → α)
      (hmasked : ∀ visitor, seeMasked (Visitor.masked visitor) = see visitor) :
      first.visitors.map see = second.visitors.map see := by
    have hsee : seeMasked ∘ Visitor.masked = see := funext hmasked
    rw [← hsee, ← List.map_map, ← List.map_map, hvisitors]
  have hresolve (engine : Engine) (service : Service) (path : String) :
      Engine.maskResolved (engine.resolve path service.state).1 =
        (engine.masked.resolve path service.state.masked).1 := by
    rw [Engine.resolve_masked]
    rfl
  exact {
    visits := hseen _ Visitor.visit fun _ ↦ rfl
    replies := hseen _ (fun visitor ↦ visitor.stage.reply?) fun visitor ↦
      visitor.stage.reply?_masked
    handled := hseen _ (fun visitor ↦ visitor.stage.handled?) fun visitor ↦
      visitor.stage.handled?_masked
    resolved := fun path ↦ by rw [hresolve, hresolve, hengines, hstates]
    entropy := (congrArg State.entropy hstates :)
    stats := fun now ↦ by
      rw [← first.state.cache.stats_masked, hcaches, second.state.cache.stats_masked]
    clock := (congrArg State.clock hstates :)
    clockReadings := (congrArg State.clockReadings hstates :)
    collector := (congrArg State.collector hstates :)
    notices := (congrArg State.notices hstates :) }

theorem map_eq_map_cases {ε α β : Type} {change : α → β} {first second : Except ε α}
    (hmap : first.map change = second.map change) :
    (∃ error, first = .error error ∧ second = .error error) ∨
      ∃ value other, first = .ok value ∧ second = .ok other ∧ change value = change other := by
  cases first <;> cases second <;> simp_all [Except.map]

/-- Lists of scopes that differ only in the bytes of their keys are refused for the same reason, or
engines can be built of both. These give the same notices when they are opened, find out the same
about every path, and after the same steps of any visitors they cannot be told apart but by the
texts of signatures. -/
theorem keys_show_in_signatures_alone {scopes others : List Scope}
    (hscopes : scopes.map Scope.masked = others.map Scope.masked) (root : Settings)
    (source : EntropySource) :
    (∀ fault, Engine.build scopes root source = .error fault ↔
      Engine.build others root source = .error fault) ∧
    ∀ engine, Engine.build scopes root source = .ok engine →
      ∃ other, Engine.build others root source = .ok other ∧
        engine.openingNotices = other.openingNotices ∧
        (∀ path, engine.findings path = other.findings path) ∧
        ∀ policy clock collector steps, LooksLike engine other
          (run engine policy clock collector steps) (run other policy clock collector steps) := by
  have hbuilds : (Engine.build scopes root source).map Engine.masked =
      (Engine.build others root source).map Engine.masked := by
    rw [← Engine.build_masked, ← Engine.build_masked, hscopes]
  rcases map_eq_map_cases hbuilds with ⟨reason, hscopes, hothers⟩ |
    ⟨built, other, hscopes, hothers, hengines⟩
  · rw [hscopes, hothers]
    refine ⟨fun _ ↦ Iff.rfl, fun engine hengine ↦ ?_⟩
    simp at hengine
  · rw [hscopes, hothers]
    refine ⟨fun fault ↦ by simp, fun engine hengine ↦ ?_⟩
    obtain rfl := Except.ok.inj hengine
    refine ⟨other, rfl, ?_, fun path ↦ ?_, fun policy clock collector steps ↦ ?_⟩
    · rw [← Engine.openingNotices_masked, hengines, Engine.openingNotices_masked]
    · rw [← Engine.findings_masked, hengines, Engine.findings_masked]
    · exact looksLike_of_masked_eq hengines
        (masked_run_congr hengines policy clock collector steps)

/-- A scope whose tokens are kept for a minute and signed with a key. -/
def signingScope (key : SigningKey) : Scope :=
  ⟨"site", .location "/", { Layer.empty with
    ttl := some (.ofSeconds 60), signed := some true, signingKey := some key }⟩

/-- The engine of this scope. -/
def signingEngine (key : SigningKey) : Engine where
  tree := ⟨[signingScope key], List.forall_mem_singleton.2 (by decide : Scope.IsName "site"),
    List.pairwise_singleton _ _, List.forall_mem_singleton.2 rfl⟩
  root := .standard
  source := .cyclic [1] []
  root_key := Settings.signingKey_standard
  root_valid := Settings.validate_standard

/-- Two keys of different lengths. -/
theorem keys_show_in_signatures_alone_two_keys :
    let scopes := [signingScope ⟨[0x6b], by decide⟩]
    let others := [signingScope ⟨[0x6c, 0x6d], by decide⟩]
    let engine := signingEngine ⟨[0x6b], by decide⟩
    scopes ≠ others ∧ scopes.map Scope.masked = others.map Scope.masked ∧
      Engine.build scopes .standard engine.source = .ok engine ∧
      ∃ other, Engine.build others .standard engine.source = .ok other ∧
        engine.openingNotices = other.openingNotices ∧
        (∀ path, engine.findings path = other.findings path) ∧
        ∀ policy clock collector steps, LooksLike engine other
          (run engine policy clock collector steps) (run other policy clock collector steps) := by
  intro scopes others engine
  have hscopes : scopes.map Scope.masked = others.map Scope.masked := rfl
  have hbuild : Engine.build scopes .standard engine.source = .ok engine := rfl
  exact ⟨by decide, hscopes, hbuild,
    (keys_show_in_signatures_alone hscopes .standard engine.source).2 engine hbuild⟩

end Service

end TokenMint
