import TokenMint.Proofs.Engine.Named
import TokenMint.Proofs.Engine.Provenance
import TokenMint.Proofs.Settings.Expiry

/-!
# Signed tokens that are kept

Signed tokens that are kept have two lifetimes. The cache keeps them as long as the demand says that
they were minted for, and what is signed about them expires as the settings say that sign them.
All demands of a chain are signed alike, and a demand with the key of one of them is one of them
(`Engine.mem_ofChain_of_key_eq`). So tokens that were found in the cache are verified under the key
of the demand that they answer, to what its own settings sign about them (`Engine.isVerified_of_hit`).

Nothing ties the two lifetimes together. What is found in the cache is still valid if the signatures
outlast the keeping (`Engine.Outlasts`, `Service.hits_valid_if_outlasting`). A scope may keep tokens
for longer than that, and then they are handed out although they have expired
(`Service.hit_on_expired`).
-/

set_option autoImplicit false
set_option relaxedAutoImplicit false

namespace TokenMint

namespace Engine

variable {engine : Engine} {path : String} {chain : Chain} {settings : Settings} {demand : Demand}
  {now : Duration}

/-! ### Demands of one chain -/

/-- All demands of a chain are signed alike. -/
theorem signing_of_mem_ofChain (hdemand : demand ∈ Demand.ofChain chain settings) :
    demand.settings.signed = settings.signed ∧
      demand.settings.signingKey = settings.signingKey ∧
        demand.settings.expiry = settings.expiry := by
  rcases List.mem_cons.1 hdemand with rfl | hnamed
  · exact ⟨rfl, rfl, rfl⟩
  · obtain ⟨token, -, rfl⟩ := List.mem_map.1 hnamed
    exact ⟨rfl, rfl, rfl⟩

/-- A demand whose key is that of a demand of a chain is a demand of this chain. -/
theorem mem_ofChain_of_key_eq (hresolve : Plain.resolve engine path = .ok (chain, settings))
    (hdemand : demand ∈ Demand.ofChain chain settings) {other : Demand}
    (hother : engine.HasDemand other) (hkey : other.key = demand.key) :
    other ∈ Demand.ofChain chain settings := by
  rcases List.mem_cons.1 hdemand with rfl | hnamed
  · exact of_chainKey hresolve hother hkey ▸ List.mem_cons_self
  · obtain ⟨token, -, rfl⟩ := List.mem_map.1 hnamed
    obtain ⟨found, hfound, hname, hsettings⟩ := of_namedKey hresolve hother hkey
    have heq : ⟨namedKey chain.key found.name, settings.named found⟩ = other := by
      rw [hname, ← hsettings]
      exact congrArg (Demand.mk · other.settings) hkey.symm
    exact List.mem_cons_of_mem _ (List.mem_map.2 ⟨found, hfound, heq⟩)

/-- What is signed about a token depends on the lifetime of the signature alone. -/
theorem payload_eq_of_expiry_eq {other : Settings} (hexpiry : other.expiry = settings.expiry)
    (scope : String) (now : Duration) (token : String) :
    other.payload scope now token = settings.payload scope now token := by
  unfold Settings.payload Settings.expiresAt
  rw [hexpiry]

/-- Tokens that were found in the cache are verified to what the settings of the demand sign, and
they are no older than some demand with the same key lets them be. -/
theorem isVerified_of_hit {calls : List Call}
    (hresolve : Plain.resolve engine path = .ok (chain, settings))
    (hdemand : demand ∈ Demand.ofChain chain settings) {emitted : EmittedTokens}
    (hsuits : engine.Suits calls engine.Proper now demand emitted)
    (hhit : emitted.served.outcome = .hit) (hsigned : demand.settings.signed = true) :
    (∃ key, demand.settings.signingKey = some key ∧
      emitted.served.minted.IsVerified key fun token payload ↦
        payload = demand.settings.payload emitted.key emitted.served.minted.issuedAt token) ∧
    ∃ other ∈ Demand.ofChain chain settings, other.key = demand.key ∧
      now < emitted.served.minted.issuedAt + other.settings.ttl := by
  obtain ⟨served, rfl, hgrants⟩ := hsuits
  cases hgrants with
  | hit hlifetime hfits hfresh =>
    obtain ⟨other, hother, hkey, -, ⟨use, hmint⟩, hexpires⟩ := hfits
    have hmem := mem_ofChain_of_key_eq hresolve hdemand hother hkey
    obtain ⟨hsigned', hkey', hexpiry'⟩ := signing_of_mem_ofChain hmem
    obtain ⟨hsigned'', hkey'', hexpiry''⟩ := signing_of_mem_ofChain hdemand
    refine ⟨?_, other, hmem, hkey, hexpires ▸ hfresh⟩
    obtain ⟨key, hsigning, hverified⟩ :=
      Settings.isVerified_of_mint (hsigned'.trans (hsigned''.symm.trans hsigned)) hmint
    refine ⟨key, (hkey''.trans hkey'.symm).trans hsigning, ?_⟩
    refine hverified.imp ?_
    rintro token payload rfl
    rw [hkey, payload_eq_of_expiry_eq (hexpiry'.trans hexpiry''.symm)]
    rfl
  | generated | bypassed | awaited | stale => simp [Demand.emitted] at hhit

/-! ### Which lifetime is longer -/

/-- Signatures outlast the keeping of tokens that were issued at an instant: counted from the start
of the second of the issue, no demand with the key of the given one keeps tokens for longer than the
whole seconds of the lifetime of the signatures. -/
def Outlasts (demands : List Demand) (demand : Demand) (issuedAt : Duration) : Prop :=
  ∀ other ∈ demands, other.key = demand.key →
    issuedAt.subsecond + other.settings.ttl.nanoseconds ≤
      demand.settings.expiry.seconds * nanosecondsPerSecond

/-- What the payload of a signature says about a token that was found in the cache at an instant. -/
structure VouchesFor (demands : List Demand) (demand : Demand) (emitted : EmittedTokens)
    (now : Duration) (token : String) (payload : Payload) : Prop where
  token : payload.token = token
  scope : payload.scope = emitted.key
  issuedAt : payload.issuedAt.toNat = emitted.served.minted.issuedAt.seconds
  expires : payload.expiresAt.isSome = true
  /-- The token has not expired, unless it is kept for too long or the clock ends. -/
  valid (houtlasts : Outlasts demands demand emitted.served.minted.issuedAt)
    (hnow : now.seconds + 1 < UInt64.size) :
    payload.isExpiredAt (UInt64.ofNat now.seconds) = false

/-- If tokens were found in the cache, are signed and expire, then every signature is verified under
the key of the demand to a payload that vouches for its token. -/
def VouchedIfHit (demands : List Demand) (now : Duration) (demand : Demand)
    (emitted : EmittedTokens) : Prop :=
  emitted.served.outcome = .hit → demand.settings.signed = true →
    demand.settings.expiry.isZero = false →
      ∃ key, demand.settings.signingKey = some key ∧
        emitted.served.minted.IsVerified key (VouchesFor demands demand emitted now)

/-- Before tokens have been kept for as long as the signatures last, they have not expired. -/
theorem seconds_lt_of_outlasts {issuedAt ttl : Duration} {lifetime : Nat}
    (houtlasts : issuedAt.subsecond + ttl.nanoseconds ≤ lifetime * nanosecondsPerSecond)
    (hfresh : now < issuedAt + ttl) : now.seconds < issuedAt.seconds + lifetime := by
  rw [Duration.lt_iff, Duration.nanoseconds_add] at hfresh
  have hnow : now.nanoseconds < issuedAt.nanoseconds + ttl.nanoseconds :=
    Nat.lt_of_lt_of_le hfresh (Nat.min_le_left _ _)
  unfold Duration.seconds Duration.subsecond nanosecondsPerSecond at *
  omega

theorem vouchesFor_payload {demands : List Demand} {emitted : EmittedTokens} {other : Demand}
    (hexpiry : demand.settings.expiry.isZero = false) (hother : other ∈ demands)
    (hkey : other.key = demand.key)
    (hfresh : now < emitted.served.minted.issuedAt + other.settings.ttl) (token : String) :
    VouchesFor demands demand emitted now token
      (demand.settings.payload emitted.key emitted.served.minted.issuedAt token) where
  token := rfl
  scope := rfl
  issuedAt := Settings.toNat_issuedAt_payload _ _ _ _
  expires := by
    obtain ⟨expiry, hexpires, -⟩ :=
      Settings.expiresAt_of_expiry hexpiry emitted.served.minted.issuedAt
    exact Option.isSome_iff_exists.2 ⟨expiry, hexpires⟩
  valid houtlasts hnow := by
    have hlt := seconds_lt_of_outlasts (houtlasts other hother hkey) hfresh
    rw [← Bool.not_eq_true, Settings.isExpiredAt_payload_iff hexpiry,
      UInt64.toNat_ofNat_of_lt' now.seconds_lt]
    omega

/-! ### One scope that keeps tokens for too long -/

/-- A layer of signed tokens that are kept for a minute. -/
def signingLayer (expiry : Duration) : Layer :=
  { Layer.empty with
    ttl := some (.ofSeconds 60)
    signed := some true
    signingKey := some Settings.shortKey
    expiry := some expiry }

/-- An engine that keeps all tokens for a minute. Those of one scope live for ten seconds, those of
the other for two minutes. -/
def twoLifetimes : Engine where
  tree := ⟨[⟨"brief", .location "/brief", signingLayer (.ofSeconds 10)⟩,
      ⟨"lasting", .location "/lasting", signingLayer (.ofSeconds 120)⟩], by decide, by decide,
    List.forall_mem_cons.2 ⟨rfl, List.forall_mem_cons.2 ⟨rfl, List.forall_mem_nil _⟩⟩⟩
  root := .standard
  source := .cyclic [0xab] []
  root_key := Settings.signingKey_standard
  root_valid := Settings.validate_standard

/-- One visitor comes for a path at once, another one half a minute later. -/
def visitTwice (path : String) : List Service.Step :=
  .arrive ⟨path, .ok .zero⟩ :: List.replicate 4 (.advance 0) ++
    [.arrive ⟨path, .ok (.ofSeconds 30)⟩, .advance 1]

/-- How the tokens of a chain were come by, when they were issued and how many there are. -/
def Stage.mainFacts? (stage : Stage) : Option (Outcome × Duration × Nat) :=
  match stage.reply? with
  | some (.ok (some emission)) =>
    let served := emission.main.served
    some (served.outcome, served.minted.issuedAt, served.minted.tokens.length)
  | _ => none

theorem Stage.of_mainFacts? {stage : Stage} {outcome : Outcome} {issuedAt : Duration} {count : Nat}
    (hfacts : stage.mainFacts? = some (outcome, issuedAt, count)) :
    ∃ emission, stage = .answered (.ok (some emission)) ∧
      emission.main.served.outcome = outcome ∧
        emission.main.served.minted.issuedAt = issuedAt ∧
          emission.main.served.minted.tokens.length = count := by
  unfold mainFacts? at hfacts
  split at hfacts
  next emission hreply =>
    simp only [Option.some.injEq, Prod.mk.injEq] at hfacts
    exact ⟨emission, eq_answered_of_reply? hreply, hfacts⟩
  next => simp at hfacts

end Engine

namespace Service

open Engine (Demand Visitor)

/-- In an engine that alone uses its cache, tokens that are signed and expire, and that were found
in the cache, are all verified under the key of their demand to a payload that vouches for them:
they have not expired if the signatures outlast the keeping. -/
theorem hits_valid_if_outlasting (engine : Engine) (policy : Policy)
    (clock : Except TokenError Duration) (collector : Collector) (steps : List Step)
    (hown : ∀ action, .act action ∈ steps → isForeign action = false) :
    ∀ visitor ∈ (run engine policy clock collector steps).visitors, ∀ emission,
      visitor.stage = .answered (.ok (some emission)) →
        ∃ chain settings now, Plain.resolve engine visitor.visit.path = .ok (chain, settings) ∧
          visitor.visit.clock = .ok now ∧
          List.Forall₂ (Engine.VouchedIfHit (Demand.ofChain chain settings) now)
            (Demand.ofChain chain settings) (emission.main :: emission.named) := by
  intro visitor hvisitor emission hreply
  obtain ⟨labels, hsound⟩ :=
    sound_run_own engine.covers_proper policy clock collector steps hown
  have hstage := hsound.visitors visitor hvisitor
  rw [hreply] at hstage
  cases hstage with
  | @emitted chain settings now _ hdue hclock hsuits =>
    refine ⟨chain, settings, now, hdue.resolves, hclock, ?_⟩
    rw [List.forall₂_iff_get] at hsuits ⊢
    refine ⟨hsuits.1, fun index hdemand hemitted hhit hsigned hexpiry ↦ ?_⟩
    have hmem := List.get_mem (Demand.ofChain chain settings) ⟨index, hdemand⟩
    obtain ⟨⟨key, hkey, hverified⟩, other, hother, hsame, hfresh⟩ :=
      Engine.isVerified_of_hit hdue.resolves hmem (hsuits.2 index hdemand hemitted) hhit hsigned
    refine ⟨key, hkey, hverified.imp ?_⟩
    rintro token payload rfl
    exact Engine.vouchesFor_payload hexpiry hother hsame hfresh token

/-- Both visitors of a path have come, and the second one has found the token of the first. -/
theorem exists_hit_of_visitTwice (path : String)
    (hfacts : ((run Engine.twoLifetimes .blockUntilPublished (.ok .zero) .silent
      (Engine.visitTwice path)).visitors.map fun visitor ↦ visitor.stage.mainFacts?) =
        [some (.generated, .zero, 1), some (.hit, .zero, 1)]) :
    ∃ visitor ∈ (run Engine.twoLifetimes .blockUntilPublished (.ok .zero) .silent
        (Engine.visitTwice path)).visitors, ∃ emission,
      visitor.visit = ⟨path, .ok (.ofSeconds 30)⟩ ∧
      visitor.stage = .answered (.ok (some emission)) ∧
      emission.main.served.outcome = .hit ∧ emission.main.served.minted.issuedAt = .zero ∧
      emission.main.served.minted.tokens.length = 1 := by
  have hvisits : (run Engine.twoLifetimes .blockUntilPublished (.ok .zero) .silent
      (Engine.visitTwice path)).visitors.map Visitor.visit =
        [⟨path, .ok .zero⟩, ⟨path, .ok (.ofSeconds 30)⟩] := visits_afterAll _ _ _
  obtain ⟨first, others, hvisitors, -, hothers⟩ := List.map_eq_cons_iff.1 hfacts
  obtain ⟨second, rfl, hsecond⟩ := List.map_eq_singleton_iff.1 hothers
  rw [hvisitors] at hvisits ⊢
  obtain ⟨emission, hstage, hmain⟩ := Engine.Stage.of_mainFacts? hsecond
  simp only [List.map_cons, List.map_nil, List.cons.injEq, and_true] at hvisits
  exact ⟨second, by simp, emission, hvisits.2, hstage, hmain⟩

/-- A visitor that finds the token of half a minute ago, whose signature lasts for two minutes. -/
theorem hits_valid_if_outlasting_lasting :
    ∃ visitor ∈ (run Engine.twoLifetimes .blockUntilPublished (.ok .zero) .silent
        (Engine.visitTwice "/lasting")).visitors, ∃ emission,
      visitor.stage = .answered (.ok (some emission)) ∧ emission.main.served.outcome = .hit ∧
      ∃ chain settings now,
        Plain.resolve Engine.twoLifetimes visitor.visit.path = .ok (chain, settings) ∧
        visitor.visit.clock = .ok now ∧
        List.Forall₂ (Engine.VouchedIfHit (Demand.ofChain chain settings) now)
          (Demand.ofChain chain settings) (emission.main :: emission.named) := by
  have hown : ∀ action, .act action ∈ Engine.visitTwice "/lasting" →
      isForeign action = false := by simp [Engine.visitTwice]
  obtain ⟨visitor, hvisitor, emission, -, hstage, hhit, -⟩ :=
    exists_hit_of_visitTwice "/lasting" (by decide +kernel)
  exact ⟨visitor, hvisitor, emission, hstage, hhit,
    hits_valid_if_outlasting _ _ _ _ _ hown visitor hvisitor emission hstage⟩

/-- A visitor is given the token of half a minute ago, whose signature has lasted for ten seconds
only. -/
theorem hit_on_expired :
    ∃ visitor ∈ (run Engine.twoLifetimes .blockUntilPublished (.ok .zero) .silent
        (Engine.visitTwice "/brief")).visitors, ∃ emission,
      visitor.visit = ⟨"/brief", .ok (.ofSeconds 30)⟩ ∧
      visitor.stage = .answered (.ok (some emission)) ∧ emission.main.served.outcome = .hit ∧
      emission.main.served.minted.tokens.length = 1 ∧
      ∃ chain settings key,
        Plain.resolve Engine.twoLifetimes "/brief" = .ok (chain, settings) ∧
        settings.signed = true ∧ settings.expiry.isZero = false ∧
        settings.signingKey = some key ∧
        emission.main.served.minted.IsVerified key fun token payload ↦
          payload.token = token ∧ payload.isExpiredAt 30 = true := by
  obtain ⟨visitor, hvisitor, emission, hvisit, hstage, hhit, hissued, hcount⟩ :=
    exists_hit_of_visitTwice "/brief" (by decide +kernel)
  refine ⟨visitor, hvisitor, emission, hvisit, hstage, hhit, hcount, ?_⟩
  let settings := Settings.standard.merge (Engine.signingLayer (.ofSeconds 10))
  let chain : Chain := ⟨[⟨0, "brief", .location "/brief", Engine.signingLayer (.ofSeconds 10)⟩]⟩
  have hresolve : Plain.resolve Engine.twoLifetimes "/brief" = .ok (chain, settings) := by
    decide +kernel
  have hexpiry : settings.expiry.isZero = false := by decide
  obtain ⟨labels, hsound⟩ := sound_run_own Engine.twoLifetimes.covers_proper .blockUntilPublished
    (.ok .zero) .silent (Engine.visitTwice "/brief") (by simp [Engine.visitTwice])
  have hjustified := hsound.visitors visitor hvisitor
  rw [hstage, hvisit] at hjustified
  cases hjustified with
  | emitted hdue hclock hsuits =>
    obtain ⟨rfl, rfl⟩ := Prod.mk.inj (Except.ok.inj (hdue.resolves.symm.trans hresolve))
    obtain ⟨hmain, -⟩ := List.forall₂_cons.1 hsuits
    obtain ⟨⟨key, hkey, hverified⟩, -⟩ :=
      Engine.isVerified_of_hit hresolve List.mem_cons_self hmain hhit rfl
    refine ⟨chain, settings, key, hresolve, rfl, hexpiry, hkey, hverified.imp ?_⟩
    rintro token payload rfl
    rw [Settings.isExpiredAt_payload_iff hexpiry, hissued]
    exact ⟨rfl, by decide⟩

end Service

end TokenMint
