import TokenMint.Minted
import TokenMint.Proofs.Settings.Validity
import Mathlib.Data.List.Forall2

/-!
# What minting comes to

Valid settings make tokens of any bytes, as long as there are as many as they ask for
(`Settings.IsValid.exists_assemble`). So once settings have been accepted, minting fails only if the
source does (`Settings.IsValid.failure_of_mint`). What is minted was issued at the instant of the
call, and every token is the text of its own piece of the bytes (`Settings.of_assemble`).
-/

set_option autoImplicit false
set_option relaxedAutoImplicit false

namespace TokenMint

/-! ### Lists of results -/

theorem mapM_eq_ok_iff {ε α β : Type} (compute : α → Except ε β) (items : List α)
    (results : List β) :
    items.mapM compute = .ok results ↔
      List.Forall₂ (fun item result ↦ compute item = .ok result) items results := by
  induction items generalizing results with
  | nil => simp [pure, Except.pure, eq_comm]
  | cons item rest ih =>
    rw [List.mapM_cons, List.forall₂_cons_left_iff]
    constructor
    · intro hmap
      cases hitem : compute item with
      | error error => simp [hitem, bind, Except.bind] at hmap
      | ok result =>
        cases hrest : rest.mapM compute with
        | error error => simp [hitem, hrest, bind, Except.bind] at hmap
        | ok others =>
          simp only [hitem, hrest, bind, Except.bind, pure, Except.pure] at hmap
          exact ⟨result, others, rfl, (ih others).1 hrest, (Except.ok.inj hmap).symm⟩
    · rintro ⟨result, others, hitem, hothers, rfl⟩
      simp only [hitem, (ih others).2 hothers, bind, Except.bind, pure, Except.pure]

theorem exists_mapM {ε α β : Type} {compute : α → Except ε β} {items : List α}
    (hitems : ∀ item ∈ items, ∃ result, compute item = .ok result) :
    ∃ results, items.mapM compute = .ok results := by
  induction items with
  | nil => exact ⟨[], rfl⟩
  | cons item rest ih =>
    obtain ⟨result, hresult⟩ := hitems item List.mem_cons_self
    obtain ⟨others, hothers⟩ := ih fun other hother ↦ hitems other (List.mem_cons_of_mem _ hother)
    refine ⟨result :: others, ?_⟩
    simp only [List.mapM_cons, hresult, hothers, bind, Except.bind, pure, Except.pure]

/-! ### Pieces of the random bytes -/

theorem length_of_mem_chunks {size count : Nat} {bytes : List UInt8}
    (hlength : bytes.length = size * count) :
    ∀ piece ∈ chunks size count bytes, piece.length = size := by
  induction count generalizing bytes with
  | zero => simp [chunks]
  | succ count ih =>
    rw [Nat.mul_succ] at hlength
    rw [chunks, List.forall_mem_cons]
    refine ⟨?_, ih ?_⟩
    · rw [List.length_take, hlength]
      omega
    · rw [List.length_drop, hlength]
      omega

theorem Encoding.exists_encode {raw : List UInt8} {format : Format} {alphabet : Option Alphabet}
    (grouping : Nat) (hraw : raw ≠ [])
    (hcustom : format = .custom → alphabet ≠ none ∧ raw.length % bytesPerCharacter = 0) :
    ∃ text, encode raw format alphabet grouping = .ok text := by
  have hsome : raw.isEmpty = false := by simpa using hraw
  rw [encode.eq_def, hsome, if_neg Bool.false_ne_true]
  cases format with
  | hex => exact ⟨_, rfl⟩
  | base64Url => exact ⟨_, rfl⟩
  | base64 => exact ⟨_, rfl⟩
  | custom =>
    obtain ⟨halphabet, hwords⟩ := hcustom rfl
    obtain ⟨alphabet, rfl⟩ := Option.ne_none_iff_exists'.1 halphabet
    exact ⟨_, if_pos hwords⟩

namespace Settings

variable {settings : Settings} {source : EntropySource} {scope : String} {now : Duration}

/-! ### Valid settings make tokens of any bytes -/

theorem IsValid.bytesPerToken_pos (hvalid : settings.IsValid) : 0 < settings.bytesPerToken := by
  have hlength := hvalid.length.1
  unfold bytesPerToken Format.entropySize
  split
  · exact Nat.mul_pos hlength (by decide)
  · exact hlength

theorem IsValid.exists_tokenText (hvalid : settings.IsValid) (now : Duration) {raw : List UInt8}
    (hraw : raw.length = settings.bytesPerToken) :
    ∃ text, settings.tokenText now raw = .ok text := by
  have hsome : raw ≠ [] := List.length_pos_iff.1 (hraw ▸ hvalid.bytesPerToken_pos)
  have hcustom : settings.format = .custom →
      settings.alphabet ≠ none ∧ raw.length % bytesPerCharacter = 0 := by
    intro hformat
    refine ⟨fun hnone ↦ hvalid.alphabet ⟨hformat, hnone⟩, ?_⟩
    rw [hraw, bytesPerToken, hformat]
    exact Nat.mul_mod_left _ _
  obtain ⟨encoded, hencoded⟩ := Encoding.exists_encode settings.grouping hsome hcustom
  unfold tokenText
  rw [hencoded]
  exact ⟨_, rfl⟩

theorem IsValid.exists_signatures (hvalid : settings.IsValid) (scope : String) (now : Duration)
    (tokens : List String) :
    ∃ signatures, settings.signatures scope now tokens = .ok signatures := by
  unfold signatures
  cases hsigned : settings.signed with
  | false => exact ⟨[], rfl⟩
  | true =>
    obtain ⟨key, hkey⟩ := Option.ne_none_iff_exists'.1 fun hnone ↦ hvalid.key ⟨hsigned, hnone⟩
    rw [if_pos rfl, hkey]
    -- A key never fails to sign.
    exact exists_mapM fun token _ ↦ ⟨_, rfl⟩

theorem IsValid.exists_assemble (hvalid : settings.IsValid) (scope : String) (now : Duration)
    {raw : List UInt8} (hraw : raw.length = settings.bytesPerDraw) :
    ∃ minted, settings.assemble scope now raw = .ok minted := by
  obtain ⟨tokens, htokens⟩ := exists_mapM fun piece hpiece ↦
    hvalid.exists_tokenText now (length_of_mem_chunks hraw piece hpiece)
  obtain ⟨signatures, hsignatures⟩ := hvalid.exists_signatures scope now tokens
  refine ⟨⟨tokens, signatures, now⟩, ?_⟩
  simp only [assemble, htokens, hsignatures, liftFault, bind, Except.bind, pure, Except.pure]

/-! ### What tokens are made of -/

theorem of_assemble {raw : List UInt8} {minted : Minted}
    (hassemble : settings.assemble scope now raw = .ok minted) :
    minted.issuedAt = now ∧
      List.Forall₂ (fun piece token ↦ settings.tokenText now piece = .ok token)
        (chunks settings.bytesPerToken settings.count raw) minted.tokens ∧
      settings.signatures scope now minted.tokens = .ok minted.signatures := by
  unfold assemble at hassemble
  cases htokens : (chunks settings.bytesPerToken settings.count raw).mapM
      (settings.tokenText now) with
  | error fault => simp [htokens, liftFault, bind, Except.bind] at hassemble
  | ok tokens =>
    cases hsignatures : settings.signatures scope now tokens with
    | error error => simp [htokens, hsignatures, liftFault, bind, Except.bind] at hassemble
    | ok signatures =>
      simp only [htokens, hsignatures, liftFault, bind, Except.bind, pure, Except.pure] at hassemble
      obtain rfl := Except.ok.inj hassemble
      exact ⟨rfl, (mapM_eq_ok_iff _ _ _).1 htokens, hsignatures⟩

theorem of_tokenText {raw : List UInt8} {text : String}
    (htext : settings.tokenText now raw = .ok text) :
    ∃ encoded, Encoding.encode raw settings.format settings.alphabet settings.grouping =
        .ok encoded ∧
      text = settings.textBefore ++
        (if settings.timestamped then Nat.repr now.seconds ++ "-" else "") ++ encoded ++
          settings.textAfter := by
  unfold tokenText at htext
  cases hencoded : Encoding.encode raw settings.format settings.alphabet settings.grouping with
  | error fault => simp [hencoded, bind, Except.bind] at htext
  | ok encoded =>
    simp only [hencoded, bind, Except.bind, pure, Except.pure] at htext
    exact ⟨encoded, rfl, (Except.ok.inj htext).symm⟩

/-! ### Minting -/

/-- What is minted is made of as many bytes as the settings ask for. -/
theorem assemble_of_mint {use : EntropyUse} {minted : Minted}
    (hmint : (settings.mint source scope now use).1 = .ok minted) :
    ∃ raw, raw.length = settings.bytesPerDraw ∧ settings.assemble scope now raw = .ok minted := by
  unfold mint at hmint
  cases hvalid : settings.validate with
  | error fault => simp [hvalid] at hmint
  | ok =>
    simp only [hvalid] at hmint
    cases hdraw : (source.draw (use.announce settings.bytesPerDraw).1 settings.bytesPerDraw
        (use.announce settings.bytesPerDraw).2).1 with
    | error error => simp [hdraw, Except.bind] at hmint
    | ok raw =>
      rw [hdraw] at hmint
      exact ⟨raw, EntropySource.length_of_draw hdraw, hmint⟩

theorem issuedAt_of_mint {use : EntropyUse} {minted : Minted}
    (hmint : (settings.mint source scope now use).1 = .ok minted) : minted.issuedAt = now := by
  obtain ⟨raw, -, hassemble⟩ := assemble_of_mint hmint
  exact (of_assemble hassemble).1

/-- Once settings have been accepted, minting fails only because the source does. -/
theorem IsValid.failure_of_mint (hvalid : settings.IsValid) {use : EntropyUse}
    {error : TokenError} (hmint : (settings.mint source scope now use).1 = .error error) :
    ∃ number, source.failure number = some error := by
  simp only [mint, settings.validate_eq_ok_iff.2 hvalid] at hmint
  cases hdraw : (source.draw (use.announce settings.bytesPerDraw).1 settings.bytesPerDraw
      (use.announce settings.bytesPerDraw).2).1 with
  | error reason =>
    rw [hdraw] at hmint
    obtain rfl := Except.error.inj hmint
    unfold EntropySource.draw at hdraw
    split at hdraw
    next failure hfailure => exact ⟨_, hfailure.trans (congrArg some (Except.error.inj hdraw))⟩
    next => simp at hdraw
  | ok raw =>
    obtain ⟨minted, hassemble⟩ :=
      hvalid.exists_assemble scope now (EntropySource.length_of_draw hdraw)
    rw [hdraw, Except.bind, hassemble] at hmint
    simp at hmint

end Settings

end TokenMint
