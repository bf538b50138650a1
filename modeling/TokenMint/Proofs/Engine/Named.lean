import TokenMint.Proofs.Engine.Justified

/-!
# Which declaration a named token is minted from

In an engine that alone uses its cache, what is kept under a key was minted for a demand with that
key, and is kept as long as the settings of that demand say (`Engine.Proper`). A named key tells the
chain and the name (`Engine.of_namedKey`). So the tokens of every position of an emission were
minted from a declaration of the chain with the name of that position
(`Service.named_from_declaration`). It is the declaration of the position itself if it is the only
one of its name, or if the tokens were generated for this very request. A scope may declare a name
again that an enclosing scope has declared, with other settings; the two declarations then share a
key, and the later one gets the tokens of the earlier one (`Service.redeclared_gets_earlier`).
-/

set_option autoImplicit false
set_option relaxedAutoImplicit false

namespace TokenMint

namespace Engine

/-- Tokens that the engine itself put under a key: they were minted for a demand with this key, and
are kept for its lifetime. -/
def Proper (engine : Engine) (key : String) (kept : Kept) : Prop :=
  ∃ demand, engine.HasDemand demand ∧ demand.key = key ∧ demand.settings.ttl.isZero = false ∧
    engine.Mints demand kept.minted.issuedAt (.ok kept.minted) ∧
      kept.expiresAt = kept.minted.issuedAt + demand.settings.ttl

variable {engine : Engine}

theorem covers_proper (engine : Engine) : engine.Covers engine.Proper := by
  rintro demand now minted hdemand hlifetime ⟨use, hmint⟩
  have hissued : minted.issuedAt = now := Settings.issuedAt_of_mint hmint
  subst hissued
  exact ⟨demand, hdemand, rfl, hlifetime, ⟨use, hmint⟩, rfl⟩

/-- A demand whose key is that of a named token of a chain is for a named token of this chain with
this name. -/
theorem of_namedKey {path : String} {chain : Chain} {settings : Settings}
    (hresolve : Plain.resolve engine path = .ok (chain, settings)) {demand : Demand}
    (hdemand : engine.HasDemand demand) {name : String}
    (hkey : demand.key = namedKey chain.key name) :
    ∃ token ∈ settings.namedTokens, token.name = name ∧
      demand.settings = settings.named token := by
  obtain ⟨other, chain', settings', hresolve', hmem⟩ := hdemand
  obtain ⟨hchain, rfl, -⟩ := (plain_resolve_eq_ok_iff engine).1 hresolve
  obtain ⟨hchain', rfl, -⟩ := (plain_resolve_eq_ok_iff engine).1 hresolve'
  rcases List.mem_cons.1 hmem with rfl | hnamed
  · exact absurd hkey (ScopeTree.key_ne_namedKey hchain' _ _)
  · obtain ⟨token, htoken, rfl⟩ := List.mem_map.1 hnamed
    obtain ⟨rfl, hname⟩ := ScopeTree.namedKey_inj hchain' hchain hkey
    exact ⟨token, htoken, hname, rfl⟩

/-! ### Tokens of a declaration -/

/-- A text of a declaration: as many bytes as it asks for in its format, between its texts. -/
def IsTextOf (settings : Settings) (token : NamedToken) (issuedAt : Duration) (text : String) :
    Prop :=
  ∃ raw encoded,
    raw.length = (token.format.getD settings.format).entropySize
      (token.length.getD settings.length) ∧
    Encoding.encode raw (token.format.getD settings.format) settings.alphabet settings.grouping =
      .ok encoded ∧
    text = token.textBefore.getD settings.textBefore ++
      (if token.timestamped.getD settings.timestamped then Nat.repr issuedAt.seconds ++ "-"
        else "") ++ encoded ++ token.textAfter.getD settings.textAfter

/-- What is emitted under a key was minted with the settings of a declaration, and obeys its
lifetime. -/
structure MintedFrom (engine : Engine) (settings : Settings) (now : Duration) (token : NamedToken)
    (emitted : EmittedTokens) : Prop where
  mints : ∃ use, ((settings.named token).mint engine.source emitted.key
    emitted.served.minted.issuedAt use).1 = .ok emitted.served.minted
  text : ∃ text, emitted.served.minted.tokens = [text] ∧
    IsTextOf settings token emitted.served.minted.issuedAt text
  fresh : emitted.served.outcome.isFresh = true → emitted.served.minted.issuedAt = now
  /-- Tokens that were kept have not expired. -/
  hit : emitted.served.outcome = .hit →
    now < emitted.served.minted.issuedAt + token.ttl.getD settings.ttl
  /-- Tokens without a lifetime are not kept, and no others are minted past the cache. -/
  bypassed : emitted.served.outcome = .bypassed ↔ (token.ttl.getD settings.ttl).isZero = true

/-- What is emitted for a declaration. -/
structure EmittedFor (engine : Engine) (chain : Chain) (settings : Settings) (now : Duration)
    (token : NamedToken) (emitted : EmittedTokens) : Prop where
  key : emitted.key = namedKey chain.key token.name
  /-- An empty header is none. -/
  header : emitted.header = token.header.bind fun name ↦ if name = "" then none else some name
  environment : emitted.environment = some token.name
  /-- The tokens were minted from a declaration of the same name. -/
  minted : ∃ other ∈ settings.namedTokens, other.name = token.name ∧
    engine.MintedFrom settings now other emitted
  /-- It is the declaration itself if the tokens are new or no other has its name. -/
  own : (emitted.served.outcome.isFresh = true ∨
      ∀ other ∈ settings.namedTokens, other.name = token.name → other = token) →
    engine.MintedFrom settings now token emitted

variable {chain : Chain} {settings : Settings} {token : NamedToken} {now : Duration}
  {minted : Minted} {outcome : Outcome}

theorem isTextOf_of_mint {key : String} {use : EntropyUse}
    (hmint : ((settings.named token).mint engine.source key now use).1 = .ok minted) :
    ∃ text, minted.tokens = [text] ∧ IsTextOf settings token now text := by
  obtain ⟨raw, hraw, hassemble⟩ := Settings.assemble_of_mint hmint
  obtain ⟨-, htokens, -⟩ := Settings.of_assemble hassemble
  -- A named token is minted alone, so there is a single piece.
  have hcount : (settings.named token).count = 1 := rfl
  rw [hcount, chunks, chunks, List.forall₂_cons_left_iff] at htokens
  obtain ⟨text, others, htext, hothers, htokens⟩ := htokens
  obtain rfl := List.forall₂_nil_left_iff.1 hothers
  rw [Settings.bytesPerDraw, hcount, Nat.mul_one] at hraw
  rw [← hraw, List.take_length] at htext
  obtain ⟨encoded, hencoded, rfl⟩ := Settings.of_tokenText htext
  exact ⟨_, htokens, raw, encoded, hraw, hencoded, rfl⟩

/-- Tokens that were minted just now are those of the declaration they were minted for. -/
theorem mintedFrom_of_mints {emitted : EmittedTokens}
    (hmints : engine.Mints ⟨emitted.key, settings.named token⟩ now (.ok emitted.served.minted))
    (hhit : emitted.served.outcome ≠ .hit)
    (hbypassed : emitted.served.outcome = .bypassed ↔
      (token.ttl.getD settings.ttl).isZero = true) :
    engine.MintedFrom settings now token emitted := by
  obtain ⟨use, hmint⟩ := hmints
  have hissued : emitted.served.minted.issuedAt = now := Settings.issuedAt_of_mint hmint
  refine ⟨⟨use, ?_⟩, ?_, fun _ ↦ hissued, fun h ↦ absurd h hhit, hbypassed⟩
  · rw [hissued]
    exact hmint
  · rw [hissued]
    exact isTextOf_of_mint hmint

/-- Tokens that were kept under the key of a named token are those of a declaration with its
name. -/
theorem mintedFrom_of_proper {path : String}
    (hresolve : Plain.resolve engine path = .ok (chain, settings)) {name : String}
    {emitted : EmittedTokens} (hkey : emitted.key = namedKey chain.key name) {expiresAt : Duration}
    (hproper : engine.Proper emitted.key ⟨emitted.served.minted, expiresAt⟩)
    (hhit : emitted.served.outcome = .hit → now < expiresAt)
    (hkept : emitted.served.outcome.isFresh = false) :
    ∃ other ∈ settings.namedTokens, other.name = name ∧
      engine.MintedFrom settings now other emitted := by
  obtain ⟨demand, hdemand, hdemandKey, hlifetime, ⟨use, hmint⟩, hexpires⟩ := hproper
  obtain ⟨other, hother, hname, hsettings⟩ :=
    of_namedKey hresolve hdemand (hdemandKey.trans hkey)
  rw [hsettings, hdemandKey] at hmint
  rw [hsettings] at hlifetime hexpires
  refine ⟨other, hother, hname, ⟨use, hmint⟩, isTextOf_of_mint hmint, ?_, ?_, ?_⟩
  · simp [hkept]
  · exact fun h ↦ hexpires ▸ hhit h
  · have hzero : (other.ttl.getD settings.ttl).isZero = false := hlifetime
    rw [hzero]
    refine ⟨fun hbypassed ↦ ?_, by simp⟩
    simp [hbypassed, Outcome.isFresh] at hkept

/-- Whatever answers the demand of a declaration is emitted for it. -/
theorem emittedFor_of_suits {calls : List Call} {path : String}
    (hresolve : Plain.resolve engine path = .ok (chain, settings))
    (htoken : token ∈ settings.namedTokens) {emitted : EmittedTokens}
    (hsuits : engine.Suits calls engine.Proper now
      ⟨namedKey chain.key token.name, settings.named token⟩ emitted) :
    engine.EmittedFor chain settings now token emitted := by
  obtain ⟨served, rfl, hgrants⟩ := hsuits
  let demand : Demand := ⟨namedKey chain.key token.name, settings.named token⟩
  have hnew (hfrom : engine.MintedFrom settings now token (demand.emitted served)) :
      engine.EmittedFor chain settings now token (demand.emitted served) :=
    ⟨rfl, rfl, rfl, ⟨token, htoken, rfl, hfrom⟩, fun _ ↦ hfrom⟩
  have hold (expiresAt : Duration) (hfits : engine.Proper demand.key ⟨served.minted, expiresAt⟩)
      (hhit : served.outcome = .hit → now < expiresAt) (hkept : served.outcome.isFresh = false) :
      engine.EmittedFor chain settings now token (demand.emitted served) := by
    have hkey : (demand.emitted served).key = namedKey chain.key token.name := rfl
    have hfrom := mintedFrom_of_proper hresolve hkey hfits hhit hkept
    refine ⟨rfl, rfl, rfl, hfrom, ?_⟩
    rintro (hfresh | hunique)
    · exact absurd (hkept.symm.trans hfresh) (by simp)
    · obtain ⟨other, hother, hname, hminted⟩ := hfrom
      exact hunique other hother hname ▸ hminted
  cases hgrants with
  | generated hlifetime hmade =>
    refine hnew (mintedFrom_of_mints hmade.2 nofun ⟨nofun, fun hzero ↦ ?_⟩)
    exact absurd (hlifetime.symm.trans hzero) Bool.false_ne_true
  | bypassed hzero hmade =>
    exact hnew (mintedFrom_of_mints hmade.2 nofun ⟨fun _ ↦ hzero, fun _ ↦ rfl⟩)
  | hit hlifetime hfits hfresh => exact hold _ hfits (fun _ ↦ hfresh) rfl
  | awaited hlifetime hfits => exact hold _ hfits nofun rfl
  | stale hlifetime hfits => exact hold _ hfits nofun rfl

/-! ### A name that is declared twice -/

/-- A hexadecimal named token of so many bytes. -/
def hexToken (length : Nat) : NamedToken :=
  { NamedToken.ofName "A" with length := some length, format := some .hex }

/-- A scope in which tokens are kept for a minute, with a named token of eight bytes. -/
def outerScope : Scope :=
  ⟨"site", .location "/",
    { Layer.empty with ttl := some (.ofSeconds 60), namedTokens := [hexToken 8] }⟩

/-- A scope within it that declares the same name for a token of four bytes. -/
def innerScope : Scope :=
  ⟨"app", .location "/app", { Layer.empty with namedTokens := [hexToken 4] }⟩

/-- The engine of both scopes, over a source of equal bytes. -/
def redeclaring : Engine where
  tree := ⟨[outerScope, innerScope], by decide, by decide,
    List.forall_mem_cons.2 ⟨rfl, List.forall_mem_cons.2 ⟨rfl, List.forall_mem_nil _⟩⟩⟩
  root := .standard
  source := .cyclic [0xab] []
  root_key := rfl
  root_valid := rfl

/-- The chain of both scopes. -/
def bothScopes : Chain :=
  ⟨[⟨0, outerScope⟩, ⟨1, innerScope⟩]⟩

theorem chain_redeclaring : redeclaring.tree.chain "/app/x" = .ok bothScopes :=
  (redeclaring.tree.chain_eq_ok_iff _ _).2 ⟨by decide, by decide +kernel, by decide +kernel⟩

/-- What a first request for a path of both scopes is given. The second declaration has the tokens
of the first. -/
def redeclaredEmission : Emission :=
  let named (outcome : Outcome) : EmittedTokens :=
    ⟨"site>app#A", ⟨⟨["abababababababab"], [], .zero⟩, outcome⟩, none, some "A"⟩
  ⟨⟨"site>app", ⟨⟨["q6urq6urq6urq6urq6urqw"], [], .zero⟩, .generated⟩, none, some "UNIQUE_STRING"⟩,
    [named .generated, named .hit]⟩

end Engine

namespace Service

open Engine (Demand)

/-- In an engine that alone uses its cache, an emission has one entry for every named token of its
chain, in order. Whatever its outcome, an entry holds tokens that were minted from a declaration of
the chain with the same name, and obeys the lifetime of that declaration. It is the declaration of
the entry itself if the tokens are new, or if no other declaration of the chain has its name. -/
theorem named_from_declaration (engine : Engine) (policy : Policy)
    (clock : Except TokenError Duration) (collector : Collector) (steps : List Step)
    (hown : ∀ action, .act action ∈ steps → isForeign action = false) :
    ∀ visitor ∈ (run engine policy clock collector steps).visitors, ∀ emission,
      visitor.stage = .answered (.ok (some emission)) →
        ∃ chain settings now, Plain.resolve engine visitor.visit.path = .ok (chain, settings) ∧
          visitor.visit.clock = .ok now ∧
          emission.named.length = settings.namedTokens.length ∧
          ∀ (position : Nat) (token : NamedToken) (emitted : EmittedTokens),
            settings.namedTokens[position]? = some token →
              emission.named[position]? = some emitted →
                engine.EmittedFor chain settings now token emitted := by
  intro visitor hvisitor emission hreply
  obtain ⟨labels, hsound⟩ := sound_run engine.covers_proper policy clock collector steps
    fun action haction hforeign ↦ absurd (hown action haction) (by simp [hforeign])
  have hstage := hsound.visitors visitor hvisitor
  rw [hreply] at hstage
  cases hstage with
  | emitted hdue hclock hsuits =>
    obtain ⟨-, hnamed⟩ := List.forall₂_cons.1 hsuits
    rw [List.forall₂_map_left_iff, List.forall₂_iff_get] at hnamed
    obtain ⟨hlength, hsuits⟩ := hnamed
    refine ⟨_, _, _, hdue.resolves, hclock, hlength.symm, ?_⟩
    intro position token emitted htoken hemitted
    obtain ⟨hposition, rfl⟩ := List.getElem?_eq_some_iff.1 htoken
    obtain ⟨hposition', rfl⟩ := List.getElem?_eq_some_iff.1 hemitted
    exact Engine.emittedFor_of_suits hdue.resolves (List.getElem_mem hposition)
      (hsuits position hposition hposition')

/-- Both entries of a name that is declared twice hold tokens of one of its declarations. -/
theorem named_from_declaration_redeclared :
    ∃ visitor ∈ (run Engine.redeclaring .blockUntilPublished (.ok .zero) .silent
        (.arrive ⟨"/app/x", .ok .zero⟩ :: List.replicate 12 (.advance 0))).visitors,
      visitor.stage = .answered (.ok (some Engine.redeclaredEmission)) ∧
        ∃ chain settings now,
          Plain.resolve Engine.redeclaring visitor.visit.path = .ok (chain, settings) ∧
          visitor.visit.clock = .ok now ∧
          Engine.redeclaredEmission.named.length = settings.namedTokens.length ∧
          ∀ (position : Nat) (token : NamedToken) (emitted : EmittedTokens),
            settings.namedTokens[position]? = some token →
              Engine.redeclaredEmission.named[position]? = some emitted →
                Engine.redeclaring.EmittedFor chain settings now token emitted := by
  let steps : List Step := .arrive ⟨"/app/x", .ok .zero⟩ :: List.replicate 12 (.advance 0)
  have hown : ∀ action, .act action ∈ steps → isForeign action = false := by
    intro action haction
    simp [steps] at haction
  have hreplies : ((run Engine.redeclaring .blockUntilPublished (.ok .zero) .silent
      steps).visitors.map fun visitor ↦ visitor.stage.reply?) =
        [some (.ok (some Engine.redeclaredEmission))] := by
    -- With the chain put in for the path there is nothing left to sort.
    simp only [steps, run, List.replicate, afterAll_cons, afterAll_nil, after_arrive,
      Engine.receive, Engine.resolve, Engine.chain_redeclaring]
    decide +kernel
  obtain ⟨visitor, hvisitors, hreply⟩ := List.map_eq_singleton_iff.1 hreplies
  have hvisitor : visitor ∈ (run Engine.redeclaring .blockUntilPublished (.ok .zero) .silent
      steps).visitors := hvisitors ▸ List.mem_singleton_self visitor
  have hstage := Engine.Stage.eq_answered_of_reply? hreply
  exact ⟨visitor, hvisitor, hstage,
    named_from_declaration _ _ _ _ _ hown visitor hvisitor _ hstage⟩

/-- The second declaration of a name asks for four bytes and gets eight, which minting with its own
settings never yields. -/
theorem redeclared_gets_earlier :
    ∃ token emitted,
      Plain.resolve Engine.redeclaring "/app/x" =
        .ok (Engine.bothScopes, Engine.bothScopes.settings .standard) ∧
      (Engine.Stage.ofProgress (Engine.redeclaring.mint "/app/x"
          (.initial .blockUntilPublished (.ok .zero) .silent)).1).reply? =
        some (.ok (some Engine.redeclaredEmission)) ∧
      (Engine.bothScopes.settings .standard).namedTokens[1]? = some token ∧
      Engine.redeclaredEmission.named[1]? = some emitted ∧
      ∀ now use, (((Engine.bothScopes.settings .standard).named token).mint
        Engine.redeclaring.source emitted.key now use).1 ≠ .ok emitted.served.minted := by
  refine ⟨_, _, ?_, ?_, rfl, rfl, ?_⟩
  · exact (Engine.plain_resolve_eq_ok_iff _).2 ⟨Engine.chain_redeclaring, rfl, rfl⟩
  · simp only [Engine.mint, Engine.start, Engine.resolve, Engine.chain_redeclaring]
    decide +kernel
  intro now use hmint
  obtain ⟨text, htokens, raw, encoded, hraw, hencoded, htext⟩ := Engine.isTextOf_of_mint hmint
  have hlength : raw.length = 4 := hraw
  have hsome : raw.isEmpty = false := by
    rw [← Bool.not_eq_true, List.isEmpty_iff_length_eq_zero]
    omega
  have hhex : encoded = Encoding.hex raw := by
    have hencode : Encoding.encode raw .hex none 0 = .ok encoded := hencoded
    rw [Encoding.encode.eq_def, hsome, if_neg Bool.false_ne_true] at hencode
    exact (Except.ok.inj hencode).symm
  have hgot : text = "abababababababab" := (List.cons.inj htokens).1.symm
  -- Four bytes have eight hexadecimal digits.
  have hletters : text.toList.length = 8 := by
    have htext : text = "" ++ "" ++ encoded ++ "" := htext
    simp [htext, hhex, Encoding.hex, Bytes.Hex.length_encode, hlength]
  rw [hgot] at hletters
  exact absurd hletters (by decide)

end Service

end TokenMint
