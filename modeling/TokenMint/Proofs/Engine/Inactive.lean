import TokenMint.Proofs.Engine.Justified

/-!
# Refused settings are no failure

A refused configuration and a path without a scope only mean that no tokens are due
(`TokenError.isInactive`). The settings of a chain are validated when the chain is resolved, and
that would settle it if it covered the settings of the named tokens, which are validated only when
tokens are minted with them. It covers what scopes declare, because their layers have been validated
before. It does not cover the length of a named token of the root settings: if that is out of
bounds, a request fails after its other tokens have been minted (`Service.unbounded_root_fails`).
With that length within its bounds no request ever fails because of its settings, and a request
whose chain has a demand that cannot be met is told that no tokens are due
(`Service.no_inactive_failure`).
-/

set_option autoImplicit false
set_option relaxedAutoImplicit false

namespace TokenMint

namespace Engine

variable {engine : Engine}

/-- All demands of a chain can be met if its own settings are accepted. -/
theorem isValid_of_mem_ofChain
    (hroot : ∀ token ∈ engine.root.namedTokens, ∀ length ∈ token.length,
      Bounds.length.Holds length)
    {path : String} {chain : Chain} {settings : Settings}
    (hresolve : Plain.resolve engine path = .ok (chain, settings)) {demand : Demand}
    (hdemand : demand ∈ Demand.ofChain chain settings) : demand.settings.IsValid := by
  obtain ⟨hchain, rfl, hvalid⟩ := (plain_resolve_eq_ok_iff engine).1 hresolve
  rw [Settings.validate_eq_ok_iff] at hvalid
  rcases List.mem_cons.1 hdemand with rfl | hnamed
  · exact hvalid
  · obtain ⟨token, htoken, rfl⟩ := List.mem_map.1 hnamed
    exact ScopeTree.isValid_named hchain hroot hvalid htoken

/-- What a demand fails with comes from the source or from a generation that was waited for. -/
theorem Fails.cases {calls : List Call} {now : Duration} {demand : Demand} {error : TokenError}
    (hfails : engine.Fails calls now demand error) (hvalid : demand.settings.IsValid) :
    (∃ number, engine.source.failure number = some error) ∨
      ∃ reason, error = .regenerationFailed reason := by
  rcases hfails with ⟨-, use, hmint⟩ | hreason
  · exact .inl (hvalid.failure_of_mint hmint)
  · exact .inr hreason

/-! ### A single scope, and a named token of the root settings -/

/-- A scope that covers every path below the root and configures nothing. -/
def everywhere : Scope :=
  ⟨"site", .location "/", .empty⟩

/-- Root settings with a named token of the given length. -/
def rootWithToken (length : Nat) : Settings :=
  { Settings.standard with namedTokens := [{ NamedToken.ofName "X" with length := some length }] }

/-- The engine of these, whatever the length. -/
def withToken (length : Nat) (source : EntropySource) : Engine where
  tree := ⟨[everywhere], by decide, by decide,
    List.forall_mem_cons.2 ⟨rfl, List.forall_mem_nil _⟩⟩
  root := rootWithToken length
  source := source
  root_key := rfl
  root_valid := rfl

end Engine

namespace Service

open Engine (Demand)

/-- If the source and the clock fail for reasons of their own only, and the root settings declare
named tokens of lengths within bounds, no request fails because of its settings or its path. A
request is told that no tokens are due if its chain has a demand whose settings are refused. -/
theorem no_inactive_failure (engine : Engine) (policy : Policy)
    (clock : Except TokenError Duration) (collector : Collector) (steps : List Step)
    (hsource : ∀ number error, engine.source.failure number = some error →
      ∃ reason, error = .entropyUnavailable reason)
    (hclock : ∀ visit, .arrive visit ∈ steps → ∀ error, visit.clock = .error error →
      ∃ reason, error = .clock reason)
    (hroot : ∀ token ∈ engine.root.namedTokens, ∀ length ∈ token.length,
      Bounds.length.Holds length) :
    ∀ visitor ∈ (run engine policy clock collector steps).visitors,
      (∀ reply, visitor.stage = .answered reply →
        (∀ error, reply = .error error → error.isInactive = false) ∧
        ∀ error, (Engine.handle reply).1 = .error error → error.isInactive = false) ∧
      ∀ chain, engine.tree.chain visitor.visit.path = .ok chain →
        (∃ demand ∈ Demand.ofChain chain (chain.settings engine.root),
          demand.settings.validate ≠ .ok ()) → visitor.stage = .answered (.ok none) := by
  intro visitor hvisitor
  -- Nothing need be known here about the tokens that are kept.
  have hcovers : engine.Covers fun _ _ ↦ True := fun _ _ _ _ _ _ ↦ trivial
  obtain ⟨labels, hsound⟩ :=
    sound_run hcovers policy clock collector steps fun _ _ _ _ _ ↦ trivial
  have hstage := hsound.visitors visitor hvisitor
  refine ⟨?_, ?_⟩
  · intro reply hreply
    rw [hreply] at hstage
    have herror : ∀ error, reply = .error error → error.isInactive = false := by
      rintro error rfl
      cases hstage with
      | clock hdue hreading =>
        obtain ⟨reason, rfl⟩ := hclock visitor.visit (arrive_mem_of_mem_run hvisitor) error hreading
        rfl
      | failed hdue hreading hdemand hfails =>
        have hvalid := Engine.isValid_of_mem_ofChain hroot hdue.resolves hdemand
        rcases hfails.cases hvalid with ⟨number, hfailure⟩ | ⟨reason, rfl⟩
        · obtain ⟨reason, rfl⟩ := hsource number error hfailure
          rfl
        · rfl
    refine ⟨herror, fun error hhandle ↦ herror error ?_⟩
    match reply, hhandle with
    | .error reason, hhandle => exact congrArg Except.error (Except.error.inj hhandle)
    | .ok none, hhandle => simp [Engine.handle] at hhandle
    | .ok (some emission), hhandle => simp [Engine.handle] at hhandle
  · rintro chain hchain ⟨demand, hdemand, hrefused⟩
    refine hstage.eq_idle fun other settings hdue ↦ hrefused ?_
    obtain ⟨hother, rfl, -⟩ := (Engine.plain_resolve_eq_ok_iff engine).1 hdue.resolves
    obtain rfl : other = chain := Except.ok.inj (hother.symm.trans hchain)
    exact (Settings.validate_eq_ok_iff _).2
      (Engine.isValid_of_mem_ofChain hroot hdue.resolves hdemand)

/-- A request for which the second draw fails, after its main token has been made. -/
theorem no_inactive_failure_failing_draw :
    let engine := Engine.withToken 4 (.cyclic [1] [2])
    let visitors := (run engine .serveStale (.ok .zero) .silent
      (.arrive ⟨"/", .ok .zero⟩ :: List.replicate 8 (.advance 0))).visitors
    (visitors.map fun visitor ↦ visitor.stage.reply?) =
        [some (.error (.entropyUnavailable "fill 2 failed"))] ∧
      ∀ visitor ∈ visitors, ∀ error, visitor.stage = .answered (.error error) →
        error.isInactive = false := by
  refine ⟨by decide +kernel, fun visitor hvisitor error herror ↦ ?_⟩
  have hsource : ∀ number error, (EntropySource.cyclic [1] [2]).failure number = some error →
      ∃ reason, error = .entropyUnavailable reason := by
    intro number error hfailure
    simp only [EntropySource.cyclic, EntropySource.plannedFailure] at hfailure
    split at hfailure
    · exact ⟨_, (Option.some.inj hfailure).symm⟩
    · simp at hfailure
  have hclock : ∀ visit : Visit,
      Step.arrive visit ∈ .arrive ⟨"/", .ok .zero⟩ :: List.replicate 8 (.advance 0) →
        ∀ error, visit.clock = .error error → ∃ reason, error = .clock reason := by
    intro visit hvisit error hreading
    obtain rfl : visit = ⟨"/", .ok .zero⟩ := by simpa using hvisit
    simp at hreading
  have hroot : ∀ token ∈ (Engine.withToken 4 (.cyclic [1] [2])).root.namedTokens,
      ∀ length ∈ token.length, Bounds.length.Holds length := by decide
  exact ((no_inactive_failure _ _ _ _ _ hsource hclock hroot visitor hvisitor).1 _ herror).1 error
    rfl

/-- An engine is built from root settings with a named token of no length. A request mints its main
token and then fails because of the settings of the named token. -/
theorem unbounded_root_fails :
    Engine.build [Engine.everywhere] (Engine.rootWithToken 0) (.cyclic [1] []) =
        .ok (Engine.withToken 0 (.cyclic [1] [])) ∧
      (Engine.Stage.ofProgress ((Engine.withToken 0 (.cyclic [1] [])).mint "/"
          (.initial .blockUntilPublished (.ok .zero) .silent)).1).reply? =
        some (.error (.invalidConfig "length must be between 1 and 1024")) :=
  ⟨rfl, by decide +kernel⟩

end Service

end TokenMint
