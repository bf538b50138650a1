import TokenMint.Proofs.Bytes.Base64
import TokenMint.Proofs.Bytes.Hex
import TokenMint.Proofs.Settings.SingleDraw

/-!
# Byte formats lose nothing

Text in a byte format tells the bytes that it was written from. `decode?` reads it, strictly: what
is written is read as these bytes, and how long it is and which characters it holds is said by
`Format.encodedLength` and `IsSpelled` (`exists_writes`); and what is read as bytes is what is
written (`writes_of_decode?`). So different bytes never make the same text (`encode_eq_encode_iff`),
and two tokens that are minted together are the same exactly if they were made of the same bytes
(`Settings.Yields.token_eq_token_iff`). The main statement is `byte_formats_lose_nothing`.
-/

set_option autoImplicit false
set_option relaxedAutoImplicit false

namespace TokenMint

namespace Encoding

/-! ### Reading and spelling -/

/-- The bytes that text in a byte format stands for. Custom characters do not tell theirs. -/
def decode? (format : Format) (text : String) : Option (List UInt8) :=
  match format with
  | .hex => Bytes.Hex.decode? text.toList
  | .base64Url => Bytes.Base64.urlSafe.decode? text.toList
  | .base64 => Bytes.Base64.standard.decode? text.toList
  | .custom => none

/-- Text that holds only characters of a byte format, with padding only where there may be some. -/
def IsSpelled (format : Format) (text : List Char) : Prop :=
  match format with
  | .hex => ∀ c ∈ text, c ∈ "0123456789abcdef".toList
  | .base64Url =>
    ∀ c ∈ text, c ∈ "ABCDEFGHIJKLMNOPQRSTUVWXYZabcdefghijklmnopqrstuvwxyz0123456789-_".toList
  | .base64 =>
    ∃ digits padding, text = digits ++ List.replicate padding '=' ∧ padding ≤ 2 ∧
      ∀ c ∈ digits, c ∈ "ABCDEFGHIJKLMNOPQRSTUVWXYZabcdefghijklmnopqrstuvwxyz0123456789+/".toList
  | .custom => False

variable {format : Format} {raw other : List UInt8} {text : String}

/-- What a byte format writes, whatever the settings of custom tokens. -/
structure Writes (format : Format) (raw : List UInt8) (text : String) : Prop where
  encode_eq (alphabet : Option Alphabet) (grouping : Nat) :
    encode raw format alphabet grouping = .ok text
  length_eq : text.length = format.encodedLength raw.length 0
  isSpelled : IsSpelled format text.toList
  decode?_eq : decode? format text = some raw

theorem writes_hex (hraw : raw ≠ []) : Writes .hex raw (hex raw) where
  encode_eq alphabet grouping := if_neg (by simpa using hraw)
  length_eq := by
    rw [hex, String.length_ofList, Bytes.Hex.length_encode, Nat.mul_comm]
    rfl
  isSpelled := by
    rw [hex, String.toList_ofList]
    exact fun c hc ↦ Bytes.Hex.mem_digits_of_mem_encode hc
  decode?_eq := by
    rw [hex, decode?, String.toList_ofList]
    exact Bytes.Hex.decode?_encode raw

theorem writes_base64Url (hraw : raw ≠ []) : Writes .base64Url raw (base64 .urlSafe raw) where
  encode_eq alphabet grouping := if_neg (by simpa using hraw)
  length_eq := by
    rw [base64, String.length_ofList, Bytes.Base64.length_encode_urlSafe]
    rfl
  isSpelled := by
    rw [base64, String.toList_ofList, Bytes.Base64.encode, Bytes.Base64.padding, List.append_nil]
    exact fun c hc ↦ Bytes.Base64.mem_digits_of_mem_map .urlSafe raw hc
  decode?_eq := by
    rw [base64, decode?, String.toList_ofList]
    exact Bytes.Base64.decode?_encode .urlSafe raw

theorem writes_base64 (hraw : raw ≠ []) : Writes .base64 raw (base64 .standard raw) where
  encode_eq alphabet grouping := if_neg (by simpa using hraw)
  length_eq := by
    rw [base64, String.length_ofList, Bytes.Base64.length_encode_standard]
    rfl
  isSpelled := by
    rw [base64, String.toList_ofList]
    exact ⟨_, _, rfl, by omega, fun c hc ↦ Bytes.Base64.mem_digits_of_mem_map .standard raw hc⟩
  decode?_eq := by
    rw [base64, decode?, String.toList_ofList]
    exact Bytes.Base64.decode?_encode .standard raw

theorem exists_writes (hformat : format ≠ .custom) (hraw : raw ≠ []) :
    ∃ text, Writes format raw text := by
  cases format with
  | hex => exact ⟨_, writes_hex hraw⟩
  | base64Url => exact ⟨_, writes_base64Url hraw⟩
  | base64 => exact ⟨_, writes_base64 hraw⟩
  | custom => exact absurd rfl hformat

/-! ### One text for each byte string -/

/-- Only the bytes of a text make the text. -/
theorem Writes.eq_of_encode (hwrites : Writes format raw text) {alphabet : Option Alphabet}
    {grouping : Nat} (hformat : format ≠ .custom)
    (hencode : encode other format alphabet grouping = .ok text) : other = raw := by
  have hother : other ≠ [] := by
    rintro rfl
    cases hencode
  obtain ⟨written, hwritten⟩ := exists_writes hformat hother
  obtain rfl := Except.ok.inj ((hwritten.encode_eq alphabet grouping).symm.trans hencode)
  exact Option.some.inj (hwritten.decode?_eq.symm.trans hwrites.decode?_eq)

theorem encode_eq_encode_iff (hformat : format ≠ .custom) (raw other : List UInt8)
    (alphabet otherAlphabet : Option Alphabet) (grouping otherGrouping : Nat) :
    encode raw format alphabet grouping = encode other format otherAlphabet otherGrouping ↔
      raw = other := by
  by_cases hraw : raw = []
  · constructor
    · intro hsame
      by_contra hne
      have hother : other ≠ [] := fun hnil ↦ hne (hraw.trans hnil.symm)
      obtain ⟨text, hwrites⟩ := exists_writes hformat hother
      rw [hwrites.encode_eq, hraw] at hsame
      cases hsame
    · rintro rfl
      rw [hraw]
      rfl
  · obtain ⟨text, hwrites⟩ := exists_writes hformat hraw
    rw [hwrites.encode_eq]
    constructor
    · intro hsame
      exact (hwrites.eq_of_encode hformat hsame.symm).symm
    · rintro rfl
      exact (hwrites.encode_eq ..).symm

/-- A text that is read as bytes is the text of these bytes. -/
theorem writes_of_decode? (hraw : raw ≠ []) (hread : decode? format text = some raw) :
    Writes format raw text := by
  have hletters {letters : List Char} (htext : text.toList = letters) :
      text = String.ofList letters := by
    rw [← htext, String.ofList_toList]
  cases format with
  | hex =>
    obtain rfl := hletters (Bytes.Hex.eq_encode_of_decode? hread)
    exact writes_hex hraw
  | base64Url =>
    obtain rfl := hletters (Bytes.Base64.eq_encode_of_decode? hread)
    exact writes_base64Url hraw
  | base64 =>
    obtain rfl := hletters (Bytes.Base64.eq_encode_of_decode? hread)
    exact writes_base64 hraw
  | custom => cases hread

end Encoding

/-! ### Tokens that are minted together -/

namespace Settings

variable {settings : Settings} {source : EntropySource} {scope : String} {now : Duration}
  {use : EntropyUse} {minted : Minted}

/-- What is minted is made of the bytes that the source has next. -/
theorem yields_of_mint (hmint : (settings.mint source scope now use).1 = .ok minted) :
    settings.Yields scope now (source.read use.taken settings.bytesPerDraw) minted := by
  cases hvalid : settings.validate with
  | error fault =>
    rw [mint_of_refused hvalid] at hmint
    cases hmint
  | ok =>
    cases hfailure : source.failure (use.requests.length + 1) with
    | some error =>
      rw [mint_of_failure hvalid scope now hfailure] at hmint
      cases hmint
    | none =>
      rw [mint_of_success hvalid scope now hfailure] at hmint
      exact yields_of_assemble (source.length_read ..) hmint

theorem Yields.token_eq_token_iff {raw : List UInt8}
    (hyields : settings.Yields scope now raw minted) (hformat : settings.format ≠ .custom)
    {first second : Nat} (hfirst : first < settings.count) (hsecond : second < settings.count) :
    minted.tokens[first]? = minted.tokens[second]? ↔
      settings.piece raw first = settings.piece raw second := by
  obtain ⟨encoded, hencoded, htoken⟩ := hyields.token first hfirst
  obtain ⟨otherEncoded, hotherEncoded, hotherToken⟩ := hyields.token second hsecond
  rw [htoken, hotherToken, ← Encoding.encode_eq_encode_iff hformat _ _ settings.alphabet
    settings.alphabet settings.grouping settings.grouping, hencoded, hotherEncoded]
  constructor
  · intro hsame
    have htexts := (String.append_left_inj _).1 (Option.some.inj hsame)
    rw [(String.append_right_inj _).1 htexts]
  · intro hsame
    rw [Except.ok.inj hsame]

end Settings

/-! ### The main statement -/

/-- Bytes can be written in every format but the custom one, and the text tells them: it has the
length and the characters of its format, it is read as these bytes, and no other text is. So bytes
have the same text exactly if they are the same, and so it is with the tokens that are minted
together and the bytes of each. -/
theorem Encoding.byte_formats_lose_nothing {format : Format} (hformat : format ≠ .custom) :
    (∀ raw : List UInt8, raw ≠ [] → ∃ text, Writes format raw text) ∧
    (∀ (raw : List UInt8) (text : String), raw ≠ [] → decode? format text = some raw →
      Writes format raw text) ∧
    (∀ (raw other : List UInt8) (alphabet otherAlphabet : Option Alphabet)
      (grouping otherGrouping : Nat),
      encode raw format alphabet grouping = encode other format otherAlphabet otherGrouping ↔
        raw = other) ∧
    ∀ (settings : Settings) (source : EntropySource) (scope : String) (now : Duration)
      (use : EntropyUse) (minted : Minted), settings.format = format →
      (settings.mint source scope now use).1 = .ok minted →
      minted.tokens.length = settings.count ∧
        ∀ first second : Nat, first < settings.count → second < settings.count →
          (minted.tokens[first]? = minted.tokens[second]? ↔
            settings.piece (source.read use.taken settings.bytesPerDraw) first =
              settings.piece (source.read use.taken settings.bytesPerDraw) second) := by
  refine ⟨fun raw hraw ↦ exists_writes hformat hraw, fun raw text hraw ↦ writes_of_decode? hraw,
    encode_eq_encode_iff hformat, ?_⟩
  rintro settings source scope now use minted rfl hmint
  have hyields := Settings.yields_of_mint hmint
  exact ⟨hyields.length_tokens, fun first second ↦ hyields.token_eq_token_iff hformat⟩

/-- Four bytes in padded text, and three tokens of one byte each, of which the first and the last
were made of the same byte. -/
theorem Encoding.byte_formats_lose_nothing_padded :
    let settings : Settings := { Settings.standard with
      format := .base64, length := 1, count := 3, textBefore := "t-", timestamped := true }
    let source := EntropySource.cyclic [251, 252, 251] []
    (∃ text, Writes .base64 [0, 16, 131, 255] text ∧ text = "ABCD/w==") ∧
      (∃ raw, decode? .base64 "ABCD/w==" = some raw ∧ Writes .base64 raw "ABCD/w==") ∧
      ∃ minted, (settings.mint source "site" (.ofSeconds 7) .none).1 = .ok minted ∧
        minted.tokens[0]? = minted.tokens[2]? ∧ minted.tokens[0]? ≠ minted.tokens[1]? := by
  intro settings source
  have hformat : Format.base64 ≠ .custom := by decide
  obtain ⟨hwritten, hread, -, hminted⟩ := byte_formats_lose_nothing hformat
  obtain ⟨text, hwrites⟩ := hwritten [0, 16, 131, 255] (by decide)
  have htext : text = "ABCD/w==" :=
    Except.ok.inj ((hwrites.encode_eq none 0).symm.trans (by decide +kernel))
  have hdecoded : decode? .base64 "ABCD/w==" = some [0, 16, 131, 255] := htext ▸ hwrites.decode?_eq
  obtain ⟨minted, hmint⟩ :
      ∃ minted, (settings.mint source "site" (.ofSeconds 7) .none).1 = .ok minted := ⟨_, rfl⟩
  obtain ⟨-, hsame⟩ := hminted settings source "site" (.ofSeconds 7) .none minted rfl hmint
  refine ⟨⟨text, hwrites, htext⟩, ⟨_, hdecoded, hread _ _ (by decide) hdecoded⟩, minted, hmint,
    (hsame 0 2 (by decide) (by decide)).2 (by decide), ?_⟩
  exact mt (hsame 0 1 (by decide) (by decide)).1 (by decide)

end TokenMint
