import TokenMint.Proofs.Metadata.Signed
import TokenMint.Proofs.Settings.Minting

/-!
# One draw for all tokens

Minting with accepted settings draws once and makes all its tokens of what it has drawn. The bytes
are cut into as many pieces as there are tokens, all of one size that is never zero
(`chunks_eq_map`, `Settings.IsValid.bytesPerToken_pos`), so that every byte has its place in exactly
one of them (`existsUnique_piece`). A piece can always be written, and a token can always be signed
if it is to be. So the source is all that can fail once the settings have been accepted, and what
comes of the bytes is stated by `Settings.Yields`. The main statement is
`Settings.mint_single_draw`: refused settings draw nothing, and accepted ones draw once and then
yield tokens.
-/

set_option autoImplicit false
set_option relaxedAutoImplicit false

namespace TokenMint

/-! ### Where a byte belongs -/

/-- The pieces are the stretches of the given size, from the first one on. -/
theorem chunks_eq_map (size count : Nat) (bytes : List UInt8) :
    chunks size count bytes =
      (List.range count).map fun index ↦ (bytes.drop (index * size)).take size := by
  induction count generalizing bytes with
  | zero => rfl
  | succ count ih =>
    have hdrop (index : Nat) : (bytes.drop size).drop (index * size) =
        bytes.drop ((index + 1) * size) := by
      rw [List.drop_drop, Nat.succ_mul, Nat.add_comm size]
    rw [chunks, ih, List.range_succ_eq_map, List.map_cons, List.map_map, Nat.zero_mul,
      List.drop_zero]
    simp only [hdrop, Function.comp_def, Nat.succ_eq_add_one]

/-- Every position lies in exactly one of the pieces. -/
theorem existsUnique_piece {size count position : Nat} (hposition : position < size * count) :
    ∃! index, index < count ∧ index * size ≤ position ∧ position < (index + 1) * size := by
  have hsize : 0 < size := Nat.pos_of_ne_zero fun hzero ↦ by simp [hzero] at hposition
  refine ⟨position / size, ⟨?_, Nat.div_mul_le_self position size, ?_⟩, ?_⟩
  · rw [Nat.div_lt_iff_lt_mul hsize, Nat.mul_comm]
    exact hposition
  · rw [← Nat.div_lt_iff_lt_mul hsize]
    exact Nat.lt_succ_self _
  · rintro index ⟨-, hlow, hhigh⟩
    refine Nat.le_antisymm ((Nat.le_div_iff_mul_le hsize).2 hlow) ?_
    exact Nat.le_of_lt_succ ((Nat.div_lt_iff_lt_mul hsize).2 hhigh)

namespace Settings

variable {settings : Settings} {source : EntropySource} {scope : String} {now : Duration}

/-! ### What is signed about a token -/

theorem toNat_issuedAt_payload (settings : Settings) (scope : String) (now : Duration)
    (token : String) : (settings.payload scope now token).issuedAt.toNat = now.seconds :=
  UInt64.toNat_ofNat_of_lt' now.seconds_lt

/-- A signature is a text that is verified to what was signed. -/
theorem verify_of_signature {key : SigningKey} {token text : String}
    (hsignature : settings.signature key scope now token = .ok text) :
    SignedMetadata.verify (.keyed key) text = .ok (settings.payload scope now token) := by
  rw [signature, SignedMetadata.sign_keyed] at hsignature
  obtain rfl := Except.ok.inj hsignature
  exact SignedMetadata.verify_text_of_tag ((SignatureScheme.verify_keyed key _ _).2 rfl)

/-- There are no signatures, or one for each token. -/
theorem of_signatures {tokens signatures : List String}
    (hsignatures : settings.signatures scope now tokens = .ok signatures) :
    (settings.signed = false → signatures = []) ∧
      (settings.signed = true → ∃ key, settings.signingKey = some key ∧
        List.Forall₂ (fun token text ↦ SignedMetadata.verify (.keyed key) text =
          .ok (settings.payload scope now token)) tokens signatures) := by
  unfold Settings.signatures at hsignatures
  cases hsigned : settings.signed with
  | false =>
    rw [hsigned, if_neg Bool.false_ne_true] at hsignatures
    exact ⟨fun _ ↦ (Except.ok.inj hsignatures).symm, nofun⟩
  | true =>
    rw [hsigned, if_pos rfl] at hsignatures
    refine ⟨nofun, fun _ ↦ ?_⟩
    cases hkey : settings.signingKey with
    | none => simp [hkey] at hsignatures
    | some key =>
      rw [hkey] at hsignatures
      refine ⟨key, rfl, ((mapM_eq_ok_iff _ _ _).1 hsignatures).imp fun token text hsignature ↦ ?_⟩
      exact verify_of_signature hsignature

/-! ### What comes of the bytes -/

/-- The bytes of the token at an index. -/
def piece (settings : Settings) (raw : List UInt8) (index : Nat) : List UInt8 :=
  (raw.drop (index * settings.bytesPerToken)).take settings.bytesPerToken

/-- What is minted of the bytes that were drawn. -/
structure Yields (settings : Settings) (scope : String) (now : Duration) (raw : List UInt8)
    (minted : Minted) : Prop where
  issuedAt : minted.issuedAt = now
  length_tokens : minted.tokens.length = settings.count
  /-- Every token is its own bytes in writing, after the second of its issue if it is to be shown,
  with the configured texts around them. -/
  token (index : Nat) (hindex : index < settings.count) :
    ∃ encoded, Encoding.encode (settings.piece raw index) settings.format settings.alphabet
        settings.grouping = .ok encoded ∧
      minted.tokens[index]? = some (settings.textBefore ++
        (if settings.timestamped then Nat.repr now.seconds ++ "-" else "") ++ encoded ++
          settings.textAfter)
  /-- The bytes of the tokens, one after the other, are the bytes that were drawn. -/
  flatten_pieces : ((List.range settings.count).map (settings.piece raw)).flatten = raw
  /-- Every byte belongs to exactly one token. -/
  byte (position : Nat) (hposition : position < raw.length) :
    ∃! index, index < settings.count ∧ index * settings.bytesPerToken ≤ position ∧
      position < (index + 1) * settings.bytesPerToken
  unsigned (hsigned : settings.signed = false) : minted.signatures = []
  /-- Every token has a signature that is verified under the key to the token, the scope, and the
  second of the issue. -/
  signed (hsigned : settings.signed = true) :
    ∃ key, settings.signingKey = some key ∧ minted.signatures.length = settings.count ∧
      ∀ (index : Nat) (token : String), minted.tokens[index]? = some token → ∃ text payload,
        minted.signatures[index]? = some text ∧
          SignedMetadata.verify (.keyed key) text = .ok payload ∧
            payload.issuedAt.toNat = now.seconds ∧ payload.expiresAt = settings.expiresAt now ∧
              payload.scope = scope ∧ payload.token = token

theorem yields_of_assemble {raw : List UInt8} {minted : Minted}
    (hraw : raw.length = settings.bytesPerDraw)
    (hassemble : settings.assemble scope now raw = .ok minted) :
    settings.Yields scope now raw minted := by
  obtain ⟨hissued, htokens, hsignatures⟩ := of_assemble hassemble
  have hpieces : chunks settings.bytesPerToken settings.count raw =
      (List.range settings.count).map (settings.piece raw) := chunks_eq_map _ _ _
  rw [hpieces] at htokens
  have hcount : minted.tokens.length = settings.count := by
    simpa using htokens.length_eq.symm
  obtain ⟨hunsigned, hsigned⟩ := of_signatures hsignatures
  refine ⟨hissued, hcount, ?_, ?_, ?_, hunsigned, ?_⟩
  · intro index hindex
    have hlt : index < minted.tokens.length := hcount ▸ hindex
    have htoken : settings.tokenText now (settings.piece raw index) = .ok minted.tokens[index] := by
      simpa using htokens.get (i := index) (by simpa using hindex) hlt
    obtain ⟨encoded, hencoded, htext⟩ := of_tokenText htoken
    exact ⟨encoded, hencoded, by rw [List.getElem?_eq_getElem hlt, htext]⟩
  · rw [← hpieces]
    exact flatten_chunks hraw
  · intro position hposition
    exact existsUnique_piece (Nat.lt_of_lt_of_eq hposition hraw)
  · intro hon
    obtain ⟨key, hkey, hsign⟩ := hsigned hon
    refine ⟨key, hkey, hsign.length_eq.symm.trans hcount, fun index token htoken ↦ ?_⟩
    obtain ⟨hindex, rfl⟩ := List.getElem?_eq_some_iff.1 htoken
    have htext := hsign.get hindex (hsign.length_eq ▸ hindex)
    exact ⟨_, _, List.getElem?_eq_getElem _, htext, toNat_issuedAt_payload _ _ _ _, rfl, rfl, rfl⟩

/-! ### Minting -/

/-- Accepted settings ask for no more bytes than the longest custom tokens in the largest number. -/
theorem IsValid.bytesPerDraw_le (hvalid : settings.IsValid) :
    settings.bytesPerDraw ≤ Bounds.length.high * bytesPerCharacter * Bounds.count.high := by
  have hlength := hvalid.length.2
  refine Nat.mul_le_mul ?_ hvalid.count.2
  unfold bytesPerToken Format.entropySize
  split
  · exact Nat.mul_le_mul_right _ hlength
  · exact Nat.le_trans hlength (by decide)

theorem mint_of_refused {fault : ConfigFault} (hrefused : settings.validate = .error fault)
    (source : EntropySource) (scope : String) (now : Duration) (use : EntropyUse) :
    settings.mint source scope now use = (.error (.ofFault fault), use) := by
  simp only [mint, hrefused]

/-- The source is asked, and fails. -/
theorem mint_of_failure (hvalid : settings.validate = .ok ()) (scope : String) (now : Duration)
    {use : EntropyUse} {error : TokenError}
    (hfailure : source.failure (use.requests.length + 1) = some error) :
    settings.mint source scope now use =
      (.error error, ⟨use.taken, use.requests ++ [settings.bytesPerDraw]⟩) := by
  simp only [mint, hvalid, EntropyUse.announce, EntropySource.draw, hfailure, Except.bind]

/-- The source is asked, and what it gives is made into tokens. -/
theorem mint_of_success (hvalid : settings.validate = .ok ()) (scope : String) (now : Duration)
    {use : EntropyUse} (hfailure : source.failure (use.requests.length + 1) = none) :
    settings.mint source scope now use =
      (settings.assemble scope now (source.read use.taken settings.bytesPerDraw),
        ⟨use.taken + settings.bytesPerDraw, use.requests ++ [settings.bytesPerDraw]⟩) := by
  simp only [mint, hvalid, EntropyUse.announce, EntropySource.draw, hfailure, Except.bind]

/-- If the settings are refused, minting fails with their fault and asks the source for nothing. If
they are accepted, minting asks the source once, for the bytes of all tokens, of which there is at
least one for each token. It fails as the source fails, if it does; otherwise it yields tokens of
the bytes that the source has given. -/
theorem mint_single_draw (settings : Settings) (source : EntropySource) (scope : String)
    (now : Duration) (use : EntropyUse) :
    let size := settings.format.entropySize settings.length * settings.count
    let number := use.requests.length + 1
    (∀ fault, settings.validate = .error fault →
      settings.mint source scope now use = (.error (.ofFault fault), use)) ∧
    (settings.validate = .ok () →
      0 < settings.format.entropySize settings.length ∧
      size ≤ Bounds.length.high * bytesPerCharacter * Bounds.count.high ∧
      (settings.mint source scope now use).2.requests = use.requests ++ [size] ∧
      (∀ error, source.failure number = some error →
        (settings.mint source scope now use).1 = .error error ∧
          (settings.mint source scope now use).2.taken = use.taken) ∧
      (source.failure number = none →
        (settings.mint source scope now use).2.taken = use.taken + size ∧
          ∃ minted, (settings.mint source scope now use).1 = .ok minted ∧
            settings.Yields scope now (source.read use.taken size) minted)) := by
  intro size number
  refine ⟨fun fault hrefused ↦ mint_of_refused hrefused source scope now use, fun hvalid ↦ ?_⟩
  have haccepted := settings.validate_eq_ok_iff.1 hvalid
  refine ⟨haccepted.bytesPerToken_pos, haccepted.bytesPerDraw_le, ?_⟩
  cases hfailure : source.failure number with
  | some reason =>
    rw [mint_of_failure hvalid scope now hfailure]
    refine ⟨rfl, ?_, nofun⟩
    rintro error ⟨⟩
    exact ⟨rfl, rfl⟩
  | none =>
    rw [mint_of_success hvalid scope now hfailure]
    have hraw := source.length_read use.taken settings.bytesPerDraw
    obtain ⟨minted, hminted⟩ := haccepted.exists_assemble scope now hraw
    exact ⟨rfl, nofun, fun _ ↦ ⟨rfl, minted, hminted, yields_of_assemble hraw hminted⟩⟩

/-- Two signed tokens of two characters each, with the second of their issue, from the second draw
of a source. -/
theorem mint_single_draw_custom :
    let settings : Settings := { standard with
      format := .custom, alphabet := (Alphabet.ofString "ABC").toOption, grouping := 1, length := 2,
      count := 2, timestamped := true, signed := true, signingKey := some ⟨[0x6b], by decide⟩ }
    let source := EntropySource.cyclic [0, 0x60, 0xc0] [1]
    settings.validate = .ok () ∧ source.failure 2 = none ∧
      ∃ minted, (settings.mint source "site" (.ofSeconds 7) ⟨0, [4]⟩).1 = .ok minted ∧
        settings.Yields "site" (.ofSeconds 7) (source.read 0 16) minted := by
  intro settings source
  have hvalid : settings.validate = .ok () := rfl
  have hfailure : source.failure 2 = none := rfl
  obtain ⟨-, -, -, -, hdrawn⟩ :=
    (mint_single_draw settings source "site" (.ofSeconds 7) ⟨0, [4]⟩).2 hvalid
  exact ⟨hvalid, hfailure, (hdrawn hfailure).2⟩

end Settings

end TokenMint
