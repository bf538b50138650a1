import TokenMint.Proofs.Engine.Inactive
import TokenMint.Proofs.Settings.SingleDraw

/-!
# What is written and what is reported

The tokens for a request are written out only once all of them have been had. So nothing is written
for a request that fails, however many of its demands have been answered before, and nothing for a
path that is due no tokens. Of an emission, everything is written that has a target
(`Emission.assignments_ne_nil_iff`). In an engine that alone uses its cache, every entry has a
token, and so something is written exactly if the settings of the path give it a target
(`Engine.hasTarget_iff_hasOutput`).

What is reported is whether there is an emission. This is whether something was written, as long as
the settings give a target (`Service.handled_truthfully`). They need not: a scope may switch off the
only output there is, and then it is reported that tokens were written when none were
(`Service.reported_though_unwritten`).
-/

set_option autoImplicit false
set_option relaxedAutoImplicit false

namespace TokenMint

/-! ### Whether anything is assigned -/

theorem NameStyle.assignments_eq_nil_iff (style : NameStyle) (base : Option String)
    (position : Option Nat) (token : String) (signature : Option String) :
    style.assignments base position token signature = [] ↔ base = none := by
  cases base <;> simp [assignments]

namespace EmittedTokens

/-- Whether the tokens are written anywhere. -/
def HasTarget (emitted : EmittedTokens) : Prop :=
  emitted.header ≠ none ∨ emitted.environment ≠ none

theorem tokenAssignments_eq_nil_iff (emitted : EmittedTokens) (token : String) (index : Nat) :
    emitted.tokenAssignments token index = [] ↔ ¬emitted.HasTarget := by
  rw [tokenAssignments, List.append_eq_nil_iff, NameStyle.assignments_eq_nil_iff,
    NameStyle.assignments_eq_nil_iff, HasTarget, not_or, not_ne_iff, not_ne_iff]

theorem assignments_ne_nil_iff (emitted : EmittedTokens) :
    emitted.assignments ≠ [] ↔ emitted.served.minted.tokens ≠ [] ∧ emitted.HasTarget := by
  unfold assignments
  rw [ne_eq, List.flatMap_eq_nil_iff]
  simp only [tokenAssignments_eq_nil_iff]
  cases htokens : emitted.served.minted.tokens with
  | nil => simp
  | cons token rest =>
    constructor
    · intro hsome
      exact ⟨List.cons_ne_nil token rest, by_contra fun hnone ↦ hsome fun _ _ ↦ hnone⟩
    · rintro ⟨-, htarget⟩ hnone
      exact hnone (token, 0) List.mem_cons_self htarget

end EmittedTokens

/-- Something is written of an emission if one of its entries has a token and a target. -/
theorem Emission.assignments_ne_nil_iff (emission : Emission) :
    emission.assignments ≠ [] ↔ ∃ emitted ∈ emission.main :: emission.named,
      emitted.served.minted.tokens ≠ [] ∧ emitted.HasTarget := by
  have hall : emission.assignments =
      (emission.main :: emission.named).flatMap EmittedTokens.assignments := rfl
  rw [hall, ne_eq, List.flatMap_eq_nil_iff]
  simp only [not_forall, exists_prop, ← EmittedTokens.assignments_ne_nil_iff]

/-- Accepted settings ask for a token. -/
theorem Settings.tokens_ne_nil_of_mint {settings : Settings} {source : EntropySource}
    {scope : String} {now : Duration} {use : EntropyUse} {minted : Minted}
    (hmint : (settings.mint source scope now use).1 = .ok minted) : minted.tokens ≠ [] := by
  cases hvalid : settings.validate with
  | error fault => simp [mint_of_refused hvalid] at hmint
  | ok =>
    obtain ⟨raw, hraw, hassemble⟩ := assemble_of_mint hmint
    have hcount : 1 ≤ settings.count := (settings.validate_eq_ok_iff.1 hvalid).count.1
    rw [← (yields_of_assemble hraw hassemble).length_tokens] at hcount
    exact List.length_pos_iff.1 hcount

/-- Whether the settings of a chain give any of its tokens a target. Every named token has one. -/
def Settings.HasOutput (settings : Settings) : Prop :=
  settings.outputHeader ≠ none ∨ settings.outputVariable ≠ none ∨ settings.namedTokens ≠ []

namespace Engine

/-- Tokens are kept under any key only if there are some. -/
def SomeKept (_key : String) (kept : Kept) : Prop :=
  kept.minted.tokens ≠ []

variable {engine : Engine} {calls : List Call} {chain : Chain} {settings : Settings}
  {now : Duration} {demand : Demand}

theorem covers_someKept (engine : Engine) : engine.Covers SomeKept :=
  fun _ _ _ _ _ ⟨_, hmint⟩ ↦ Settings.tokens_ne_nil_of_mint hmint

theorem tokens_ne_nil_of_suits {emitted : EmittedTokens}
    (hsuits : engine.Suits calls SomeKept now demand emitted) :
    emitted.served.minted.tokens ≠ [] := by
  obtain ⟨served, rfl, hgrants⟩ := hsuits
  cases hgrants with
  | generated _ hmade | bypassed _ hmade =>
    obtain ⟨-, use, hmint⟩ := hmade
    exact Settings.tokens_ne_nil_of_mint hmint
  | hit _ hfits | awaited _ hfits | stale _ hfits => exact hfits

/-- Of what answers the demands of a chain, something has a token and a target if the settings of
the chain give a target. -/
theorem hasTarget_iff_hasOutput {emission : Emission}
    (hsuits : List.Forall₂ (engine.Suits calls SomeKept now) (Demand.ofChain chain settings)
      (emission.main :: emission.named)) :
    (∃ emitted ∈ emission.main :: emission.named,
      emitted.served.minted.tokens ≠ [] ∧ emitted.HasTarget) ↔ settings.HasOutput := by
  obtain ⟨hmain, hnamed⟩ := List.forall₂_cons.1 hsuits
  have htokens := tokens_ne_nil_of_suits hmain
  have hlength := hnamed.length_eq
  rw [List.length_map] at hlength
  have htarget : emission.main.HasTarget ↔
      settings.outputHeader ≠ none ∨ settings.outputVariable ≠ none := by
    obtain ⟨served, hemitted, -⟩ := hmain
    rw [hemitted]
    rfl
  constructor
  · rintro ⟨emitted, hemitted, -, hhas⟩
    rcases List.mem_cons.1 hemitted with rfl | hmem
    · exact (htarget.1 hhas).imp_right .inl
    · have hpos := List.length_pos_of_mem hmem
      exact .inr (.inr (List.length_pos_iff.1 (hlength ▸ hpos)))
  · intro houtput
    by_cases hhas : emission.main.HasTarget
    · exact ⟨_, List.mem_cons_self, htokens, hhas⟩
    · have hdeclared : settings.namedTokens ≠ [] := by
        rw [htarget] at hhas
        unfold Settings.HasOutput at houtput
        tauto
      obtain ⟨token, others, hcons⟩ := List.exists_cons_of_ne_nil hdeclared
      rw [hcons, List.map_cons, List.forall₂_cons_left_iff] at hnamed
      obtain ⟨emitted, rest, hfirst, -, hemissions⟩ := hnamed
      have hsome := tokens_ne_nil_of_suits hfirst
      obtain ⟨served, rfl, -⟩ := hfirst
      refine ⟨_, List.mem_cons_of_mem _ (hemissions ▸ List.mem_cons_self), hsome, .inr ?_⟩
      exact Option.some_ne_none token.name

/-- A scope whose layer switches off the variable that tokens are written to. -/
def withoutOutput : Scope :=
  ⟨"site", .location "/", { Layer.empty with outputVariable := some "" }⟩

/-- The engine of this scope. -/
def unwritten : Engine where
  tree := ⟨[withoutOutput], by decide, by decide,
    List.forall_mem_cons.2 ⟨rfl, List.forall_mem_nil _⟩⟩
  root := .standard
  source := .cyclic [1] []
  root_key := Settings.signingKey_standard
  root_valid := Settings.validate_standard

end Engine

namespace Service

/-- Nothing is written for a request unless it is reported that tokens were written. It is reported
if there is an emission; then its assignments are written, in their order, and these are some if one
of its entries has a token and a target. In an engine that alone uses its cache, something is
written exactly if it is reported and the settings of the path give a target. -/
theorem handled_truthfully (engine : Engine) (policy : Policy)
    (clock : Except TokenError Duration) (collector : Collector) (steps : List Step) :
    ∀ visitor ∈ (run engine policy clock collector steps).visitors, ∀ reply,
      visitor.stage = .answered reply →
        let written := (Engine.handle reply).1
        let calls := (Engine.handle reply).2
        (written ≠ .ok true → calls = []) ∧
        (written = .ok true ↔ ∃ emission, reply = .ok (some emission)) ∧
        (∀ emission, reply = .ok (some emission) → calls = emission.assignments ∧
          (calls ≠ [] ↔ ∃ emitted ∈ emission.main :: emission.named,
            emitted.served.minted.tokens ≠ [] ∧ emitted.HasTarget)) ∧
        ((∀ action, .act action ∈ steps → isForeign action = false) →
          (calls ≠ [] ↔ written = .ok true ∧ ∃ chain settings,
            Plain.resolve engine visitor.visit.path = .ok (chain, settings) ∧
              settings.HasOutput)) := by
  intro visitor hvisitor reply hreply
  match reply, hreply with
  | .error error, _ => simp [Engine.handle]
  | .ok none, _ => simp [Engine.handle]
  | .ok (some emission), hreply =>
    refine ⟨by simp [Engine.handle], by simp [Engine.handle], ?_, fun hown ↦ ?_⟩
    · rintro _ ⟨⟩
      exact ⟨rfl, emission.assignments_ne_nil_iff⟩
    · obtain ⟨labels, hsound⟩ :=
        sound_run_own engine.covers_someKept policy clock collector steps hown
      have hstage := hsound.visitors visitor hvisitor
      rw [hreply] at hstage
      cases hstage with
      | emitted hdue hclock hsuits =>
        refine emission.assignments_ne_nil_iff.trans
          ((Engine.hasTarget_iff_hasOutput hsuits).trans ⟨fun houtput ↦ ?_, ?_⟩)
        · exact ⟨rfl, _, _, hdue.resolves, houtput⟩
        · rintro ⟨-, chain, settings, hresolve, houtput⟩
          obtain ⟨rfl, rfl⟩ := Prod.mk.inj (Except.ok.inj (hdue.resolves.symm.trans hresolve))
          exact houtput

/-- A visitor whose main token has been made when the draw of its named token fails, and another one
who comes after it. Nothing is written for the first, and two variables for the second. -/
theorem handled_truthfully_failing_draw :
    let engine := Engine.withToken 4 (.cyclic [1] [2])
    let steps : List Step := .arrive ⟨"/", .ok .zero⟩ :: List.replicate 8 (.advance 0) ++
      .arrive ⟨"/", .ok .zero⟩ :: List.replicate 8 (.advance 1)
    let visitors := (run engine .serveStale (.ok .zero) .silent steps).visitors
    (visitors.map fun visitor ↦ visitor.stage.reply?.map Engine.handle) =
        [some (.error (.entropyUnavailable "fill 2 failed"), []),
          some (.ok true, [⟨.environment "UNIQUE_STRING", "AQEBAQEBAQEBAQEBAQEBAQ"⟩,
            ⟨.environment "X", "AQEBAQ"⟩])] ∧
      ∀ visitor ∈ visitors, ∀ reply, visitor.stage = .answered reply →
        ((Engine.handle reply).1 ≠ .ok true → (Engine.handle reply).2 = []) ∧
        ((Engine.handle reply).2 ≠ [] ↔ (Engine.handle reply).1 = .ok true ∧ ∃ chain settings,
          Plain.resolve engine visitor.visit.path = .ok (chain, settings) ∧
            settings.HasOutput) := by
  intro engine steps
  refine ⟨by decide +kernel, fun visitor hvisitor reply hreply ↦ ?_⟩
  obtain ⟨hnone, -, -, hsome⟩ :=
    handled_truthfully engine .serveStale (.ok .zero) .silent steps visitor hvisitor reply hreply
  exact ⟨hnone, hsome (by simp [steps])⟩

/-- A request for the tokens of a scope without outputs is reported as written, and nothing is. -/
theorem reported_though_unwritten :
    Engine.build [Engine.withoutOutput] .standard (.cyclic [1] []) = .ok Engine.unwritten ∧
      (Engine.Stage.ofProgress (Engine.unwritten.mint "/"
          (.initial .blockUntilPublished (.ok .zero) .silent)).1).reply?.map Engine.handle =
        some (.ok true, []) :=
  ⟨rfl, by decide +kernel⟩

end Service

end TokenMint
