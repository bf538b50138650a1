import TokenMint.Proofs.Engine.Justified

/-!
# Where the tokens of a chain come from

Visitors of all paths share one table of slots, and what one of them generates others are given,
whether they find it, wait for it or take it stale. In an engine that alone uses its cache, what is
kept under a key is the result of one call of minting, made for a demand with that key, and is kept
as long as the settings of that demand say (`Engine.Called`). The key of a chain is that of no other
chain and of no named token, so the demand is that of the chain itself (`Engine.of_chainKey`), with
the settings that its paths are resolved to at any time (`Service.resolve_run`). Hence the tokens
that an emission holds for a chain were minted, all by one call, with exactly these settings
(`Service.main_from_resolution`).
-/

set_option autoImplicit false
set_option relaxedAutoImplicit false

namespace TokenMint

namespace Engine

/-- Tokens under a key that one of the calls has minted for a demand with this key, and that are
kept for its lifetime. -/
def Called (engine : Engine) (calls : List Call) (key : String) (kept : Kept) : Prop :=
  ∃ demand, engine.HasDemand demand ∧ demand.key = key ∧
    engine.Made calls demand kept.minted.issuedAt (.ok kept.minted) ∧
      kept.expiresAt = kept.minted.issuedAt + demand.settings.ttl

variable {engine : Engine} {calls : List Call} {path : String} {chain : Chain} {settings : Settings}
  {now : Duration}

/-- Tokens bear the instant of the call that minted them. -/
theorem Made.issuedAt {demand : Demand} {minted : Minted}
    (hmade : engine.Made calls demand now (.ok minted)) : minted.issuedAt = now := by
  obtain ⟨-, use, hmint⟩ := hmade
  exact Settings.issuedAt_of_mint hmint

theorem coversCalls_called (engine : Engine) (calls : List Call) :
    engine.CoversCalls calls (engine.Called calls) := by
  intro demand now minted hdemand _ hmade
  obtain rfl := hmade.issuedAt
  exact ⟨demand, hdemand, rfl, hmade, rfl⟩

/-- A demand whose key is that of a chain is for the tokens of the chain itself. -/
theorem of_chainKey (hresolve : Plain.resolve engine path = .ok (chain, settings)) {demand : Demand}
    (hdemand : engine.HasDemand demand) (hkey : demand.key = chain.key) :
    demand = ⟨chain.key, settings⟩ := by
  obtain ⟨other, chain', settings', hresolve', hmem⟩ := hdemand
  obtain ⟨hchain, rfl, -⟩ := (plain_resolve_eq_ok_iff engine).1 hresolve
  obtain ⟨hchain', rfl, -⟩ := (plain_resolve_eq_ok_iff engine).1 hresolve'
  rcases List.mem_cons.1 hmem with rfl | hnamed
  · rw [ScopeTree.chain_eq_of_key_eq hchain' hchain hkey]
  · obtain ⟨token, -, rfl⟩ := List.mem_map.1 hnamed
    exact absurd hkey.symm (ScopeTree.key_ne_namedKey hchain _ _)

/-- What is emitted for a chain was minted by one of the calls, with the settings of the chain. -/
structure MintedBy (engine : Engine) (calls : List Call) (chain : Chain) (settings : Settings)
    (now : Duration) (emitted : EmittedTokens) : Prop where
  key : emitted.key = chain.key
  made : engine.Made calls ⟨chain.key, settings⟩ emitted.served.minted.issuedAt
    (.ok emitted.served.minted)
  /-- Tokens that were kept have not expired. -/
  hit : emitted.served.outcome = .hit → now < emitted.served.minted.issuedAt + settings.ttl

/-- Whatever answers the demand of a chain was minted with the settings of the chain. -/
theorem mintedBy_of_suits (hresolve : Plain.resolve engine path = .ok (chain, settings))
    {emitted : EmittedTokens}
    (hsuits : engine.Suits calls (engine.Called calls) now ⟨chain.key, settings⟩ emitted) :
    engine.MintedBy calls chain settings now emitted := by
  obtain ⟨served, rfl, hgrants⟩ := hsuits
  let demand : Demand := ⟨chain.key, settings⟩
  have hnew (hmade : engine.Made calls demand now (.ok served.minted))
      (houtcome : served.outcome ≠ .hit) :
      engine.MintedBy calls chain settings now (demand.emitted served) := by
    have hissued := hmade.issuedAt
    subst hissued
    exact ⟨rfl, hmade, fun hhit ↦ absurd hhit houtcome⟩
  have hold (expiresAt : Duration)
      (hfits : engine.Called calls chain.key ⟨served.minted, expiresAt⟩)
      (hhit : served.outcome = .hit → now < expiresAt) :
      engine.MintedBy calls chain settings now (demand.emitted served) := by
    obtain ⟨asked, hasked, hkey, hmade, hexpires⟩ := hfits
    obtain rfl := of_chainKey hresolve hasked hkey
    exact ⟨rfl, hmade, fun houtcome ↦ hexpires ▸ hhit houtcome⟩
  cases hgrants with
  | generated _ hmade => exact hnew hmade nofun
  | bypassed _ hmade => exact hnew hmade nofun
  | hit _ hfits hfresh => exact hold _ hfits fun _ ↦ hfresh
  | awaited _ hfits => exact hold _ hfits nofun
  | stale _ hfits => exact hold _ hfits nofun

/-! ### Four visitors of two nested scopes -/

/-- The engine of a scope whose tokens of two bytes are kept for a minute and of a scope within it
whose tokens have four bytes. -/
def nestedSites : Engine where
  tree := ⟨[⟨"site", .location "/", { Layer.empty with
        ttl := some (.ofSeconds 60), format := some .hex, length := some 2 }⟩,
      ⟨"app", .location "/app", { Layer.empty with length := some 4 }⟩], by decide, by decide,
    List.forall_mem_cons.2 ⟨rfl, List.forall_mem_cons.2 ⟨rfl, List.forall_mem_nil _⟩⟩⟩
  root := .standard
  source := .cyclic [0xab, 0xcd] []
  root_key := Settings.signingKey_standard
  root_valid := Settings.validate_standard

/-- The chain of both scopes. -/
def bothSites : Chain :=
  ⟨nestedSites.tree.placed⟩

/-- The chain of the outer scope alone. -/
def outerSite : Chain :=
  ⟨nestedSites.tree.placed.take 1⟩

/-- Two visitors come for the inner scope. While the first generates and the second waits, a third
one is given tokens of the outer scope. A fourth comes for the inner scope after most of a minute. -/
def crossingSteps : List Service.Step :=
  [.arrive ⟨"/app/x", .ok .zero⟩, .advance 0, .arrive ⟨"/app/y", .ok .zero⟩, .advance 1,
    .arrive ⟨"/x", .ok (.ofSeconds 5)⟩] ++ List.replicate 4 (.advance 2) ++
    List.replicate 3 (.advance 0) ++
    [.advance 1, .arrive ⟨"/app/z", .ok (.ofSeconds 59)⟩, .advance 3]

/-- An emission of a single token under a key. -/
def siteEmission (key text : String) (issuedAt : Duration) (outcome : Outcome) : Emission :=
  ⟨⟨key, ⟨⟨[text], [], issuedAt⟩, outcome⟩, none, some "UNIQUE_STRING"⟩, []⟩

end Engine

namespace Service

variable {engine : Engine}

/-- Whatever has gone on at an engine, it resolves a path to what can be worked out anew. -/
theorem resolve_run (policy : Policy) (clock : Except TokenError Duration) (collector : Collector)
    (steps : List Step) (path : String) :
    (engine.resolve path (run engine policy clock collector steps).state).1 =
      Plain.resolve engine path :=
  ((remembers_run engine policy clock collector steps).resolve path).1

/-- In an engine that alone uses its cache, every emission names the chain of its path, and the
tokens that it holds for the chain are those of one call of minting that has returned during the
run. Whatever the outcome, the call was made for the key of the chain and with the settings that the
path is resolved to, before or after and whatever else goes on. Tokens that were found in the cache
have not outlived these settings. -/
theorem main_from_resolution (engine : Engine) (policy : Policy)
    (clock : Except TokenError Duration) (collector : Collector) (steps : List Step)
    (hown : ∀ action, .act action ∈ steps → isForeign action = false) :
    ∀ visitor ∈ (run engine policy clock collector steps).visitors, ∀ emission,
      visitor.stage = .answered (.ok (some emission)) →
        ∃ chain settings now, engine.tree.chain visitor.visit.path = .ok chain ∧
          (∀ others, (engine.resolve visitor.visit.path
            (run engine policy clock collector others).state).1 = .ok (chain, settings)) ∧
          visitor.visit.clock = .ok now ∧
          engine.MintedBy (calls engine policy clock collector steps) chain settings now
            emission.main := by
  intro visitor hvisitor emission hreply
  obtain ⟨labels, hsound⟩ := sound_run_of_coversCalls policy clock collector steps
    (engine.coversCalls_called _)
    fun action haction hforeign ↦ absurd (hown action haction) (by simp [hforeign])
  have hstage := hsound.visitors visitor hvisitor
  rw [hreply] at hstage
  cases hstage with
  | emitted hdue hclock hsuits =>
    obtain ⟨hmain, -⟩ := List.forall₂_cons.1 hsuits
    obtain ⟨hchain, -, -⟩ := (Engine.plain_resolve_eq_ok_iff engine).1 hdue.resolves
    refine ⟨_, _, _, hchain, fun others ↦ ?_, hclock, Engine.mintedBy_of_suits hdue.resolves hmain⟩
    rw [resolve_run]
    exact hdue.resolves

/-- Four visitors are given the tokens of two calls, each those of its own chain. -/
theorem main_from_resolution_crossing :
    let engine := Engine.nestedSites
    let service := run engine .blockUntilPublished (.ok .zero) .silent Engine.crossingSteps
    let inner := Engine.siteEmission "site>app" "abcdabcd" .zero
    let outer := Engine.siteEmission "site" "abcd" (.ofSeconds 5)
    (service.visitors.map fun visitor ↦ visitor.stage.reply?) =
        ([inner .generated, inner .awaited, outer .generated, inner .hit].map
          fun emission ↦ some (.ok (some emission))) ∧
      (calls engine .blockUntilPublished (.ok .zero) .silent Engine.crossingSteps).length = 2 ∧
      ∀ visitor ∈ service.visitors, ∀ emission, visitor.stage = .answered (.ok (some emission)) →
        ∃ chain settings now, engine.tree.chain visitor.visit.path = .ok chain ∧
          (∀ others, (engine.resolve visitor.visit.path
            (run engine .blockUntilPublished (.ok .zero) .silent others).state).1 =
              .ok (chain, settings)) ∧
          visitor.visit.clock = .ok now ∧
          engine.MintedBy (calls engine .blockUntilPublished (.ok .zero) .silent
            Engine.crossingSteps) chain settings now emission.main := by
  intro engine service inner outer
  have hinner : ∀ path ∈ ["/app/x", "/app/y", "/app/z"],
      Engine.nestedSites.tree.chain path = .ok Engine.bothSites := by
    intro path hpath
    refine (Engine.nestedSites.tree.chain_eq_ok_iff path _).2 ⟨by decide, ?_, by decide +kernel⟩
    revert path
    decide +kernel
  have houter : Engine.nestedSites.tree.chain "/x" = .ok Engine.outerSite :=
    (Engine.nestedSites.tree.chain_eq_ok_iff _ _).2
      ⟨by decide, by decide +kernel, by decide +kernel⟩
  simp only [List.forall_mem_cons] at hinner
  obtain ⟨hx, hy, hz, -⟩ := hinner
  refine ⟨?_, ?_, main_from_resolution _ _ _ _ _ fun action haction ↦ ?_⟩
  -- With the chains put in for the paths there is nothing left to sort.
  · simp only [service, engine, run, Engine.crossingSteps, List.replicate, List.cons_append,
      List.nil_append, afterAll_cons, afterAll_nil, after_arrive, Engine.receive, Engine.resolve,
      hx, hy, hz, houter]
    decide +kernel
  · simp only [engine, calls, Engine.crossingSteps, List.replicate, List.cons_append,
      List.nil_append, callsFrom, after_arrive, Engine.receive, Engine.resolve, hx, hy, hz, houter]
    decide +kernel
  · simp [Engine.crossingSteps] at haction

end Service

end TokenMint
