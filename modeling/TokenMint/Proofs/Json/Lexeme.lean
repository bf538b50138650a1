import Mathlib.Data.List.TakeDrop
import Mathlib.Tactic.SplitIfs
import TokenMint.Json.Lexeme

/-!
# Lexemes are read back

A text that is written as a JSON string is read back from it, whatever follows
(`string?_writeString`), and so is a 64-bit number, unless a further digit follows it
(`word?_writeWord`). A string is taken apart byte by byte. A byte that is written as itself or by a
letter comes back as a byte, and one that is written in hexadecimal comes back as a unit
(`Json.pieceOf`); both stand for the byte.
-/

set_option autoImplicit false
set_option relaxedAutoImplicit false

namespace TokenMint.Json

/-! ### Blanks -/

theorem skipBlanks_cons {first : UInt8} (hfirst : isBlank first = false) (rest : List UInt8) :
    skipBlanks (first :: rest) = first :: rest :=
  List.dropWhile_cons_of_neg (by rw [hfirst]; exact Bool.false_ne_true)

/-- A byte is found where it comes first, unless it is a blank. -/
theorem after?_cons {byte : UInt8} (hbyte : isBlank byte = false) (rest : List UInt8) :
    after? byte (byte :: rest) = some rest := by
  simp only [after?, skipBlanks_cons hbyte, if_true]

/-- No other byte is found there. -/
theorem after?_cons_of_ne {byte first : UInt8} (hfirst : isBlank first = false)
    (hne : first ≠ byte) (rest : List UInt8) : after? byte (first :: rest) = none := by
  simp only [after?, skipBlanks_cons hfirst, if_neg hne]

/-! ### Pieces of a string -/

theorem pieces?_quote (rest : List UInt8) : pieces? (quote :: rest) = some ([], rest) := by
  rw [pieces?.eq_def]
  rfl

theorem pieces?_letter {letter byte : UInt8} (hletter : letter ≠ 0x75)
    (hbyte : unescape? letter = some byte) (rest : List UInt8) :
    pieces? (backslash :: letter :: rest) = withPiece (.byte byte) (pieces? rest) := by
  rw [pieces?.eq_def]
  simp only [show backslash ≠ quote by decide, if_false, if_true, if_neg hletter, hbyte]

theorem pieces?_unit {a b c d : UInt8} {unit : Nat} (hunit : unit? a b c d = some unit)
    (rest : List UInt8) :
    pieces? (backslash :: 0x75 :: a :: b :: c :: d :: rest) =
      withPiece (.unit unit) (pieces? rest) := by
  rw [pieces?.eq_def]
  simp only [show backslash ≠ quote by decide, if_false, if_true, hunit]

theorem pieces?_plain {first : UInt8} (hquote : first ≠ quote) (hbackslash : first ≠ backslash)
    (hcontrol : ¬first < 0x20) (rest : List UInt8) :
    pieces? (first :: rest) = withPiece (.byte first) (pieces? rest) := by
  rw [pieces?.eq_def]
  simp only [if_neg hquote, if_neg hbackslash, if_neg hcontrol]

theorem hexValue?_hexDigit {n : Nat} (hn : n < 16) : hexValue? (hexDigit n) = some n := by
  revert n
  decide

/-- Four digits of which the last two give a byte are the unit of this byte. -/
theorem unit?_hexDigit (byte : UInt8) :
    unit? 0x30 0x30 (hexDigit (byte.toNat / 16)) (hexDigit (byte.toNat % 16)) =
      some byte.toNat := by
  have hbyte := byte.toNat_lt
  have hzero : hexValue? 0x30 = some 0 := rfl
  rw [unit?, hzero, hexValue?_hexDigit (by omega), hexValue?_hexDigit (by omega)]
  simp only [Option.bind_eq_bind, Option.bind_some, Option.pure_def, Option.some.injEq]
  omega

/-! ### Strings -/

/-- What the reader makes of a byte that was written between quotes. -/
def pieceOf (byte : UInt8) : Piece :=
  if byte < 0x20 ∧ byte ∉ [0x08, 0x0c, 0x0a, 0x0d, 0x09] then .unit byte.toNat else .byte byte

theorem pieceOf_of_le {byte : UInt8} (hbyte : ¬byte < 0x20) : pieceOf byte = .byte byte :=
  if_neg fun h ↦ hbyte h.1

/-- Each byte is written as one piece. -/
theorem pieces?_escape (byte : UInt8) (rest : List UInt8) :
    pieces? (escape byte ++ rest) = withPiece (pieceOf byte) (pieces? rest) := by
  unfold escape
  split_ifs with hquoted hb hf hn hr ht hcontrol
  · rcases hquoted with rfl | rfl
    · exact pieces?_letter (by decide) rfl rest
    · exact pieces?_letter (by decide) rfl rest
  · subst hb
    exact pieces?_letter (by decide) rfl rest
  · subst hf
    exact pieces?_letter (by decide) rfl rest
  · subst hn
    exact pieces?_letter (by decide) rfl rest
  · subst hr
    exact pieces?_letter (by decide) rfl rest
  · subst ht
    exact pieces?_letter (by decide) rfl rest
  · have hpiece : pieceOf byte = .unit byte.toNat :=
      if_pos ⟨hcontrol, by simp [hb, hf, hn, hr, ht]⟩
    rw [hpiece]
    exact pieces?_unit (unit?_hexDigit byte) rest
  · rw [pieceOf_of_le hcontrol]
    exact pieces?_plain (fun h ↦ hquoted (.inl h)) (fun h ↦ hquoted (.inr h)) hcontrol rest

theorem pieces?_flatMap_escape (bytes rest : List UInt8) :
    pieces? (bytes.flatMap escape ++ quote :: rest) = some (bytes.map pieceOf, rest) := by
  induction bytes with
  | nil => exact pieces?_quote rest
  | cons byte bytes ih =>
    rw [List.flatMap_cons, List.append_assoc, pieces?_escape, ih, withPiece, Option.map_some,
      List.map_cons]

/-- The unit of a control character stands for its byte. -/
theorem bytesOfCodePoint_toNat {byte : UInt8} (hbyte : byte < 0x20) :
    bytesOfCodePoint byte.toNat = [byte] := by
  have hlt : byte.toNat < 32 := hbyte
  have hchar : (Char.ofNat byte.toNat).val.toNat = byte.toNat := by
    rw [Char.ofNat, dif_pos (.inl (by omega))]
    rfl
  rw [bytesOfCodePoint, String.utf8EncodeChar]
  simp only [hchar, if_pos (show byte.toNat ≤ 127 by omega), UInt8.ofNat_toNat]

/-- A unit that is no surrogate stands for itself, whatever follows. -/
theorem bytesOf?_unit {unit : Nat} (hhigh : isHighSurrogate unit = false)
    (hlow : isLowSurrogate unit = false) (rest : List Piece) :
    bytesOf? (.unit unit :: rest) = (bytesOf? rest).map (bytesOfCodePoint unit ++ ·) := by
  match rest with
  | [] => simp [bytesOf?, hhigh, hlow]
  | .byte _ :: _ => simp [bytesOf?, hhigh, hlow]
  | .unit _ :: _ => simp [bytesOf?, hhigh, hlow]

/-- The pieces of bytes stand for these bytes. -/
theorem bytesOf?_map_pieceOf (bytes : List UInt8) :
    bytesOf? (bytes.map pieceOf) = some bytes := by
  induction bytes with
  | nil => rfl
  | cons byte bytes ih =>
    rw [List.map_cons, pieceOf]
    split
    next hunit =>
      have hlt : byte.toNat < 32 := hunit.1
      have hhigh : isHighSurrogate byte.toNat = false := by
        simp only [isHighSurrogate, Bool.and_eq_false_iff, decide_eq_false_iff_not]
        omega
      have hlow : isLowSurrogate byte.toNat = false := by
        simp only [isLowSurrogate, Bool.and_eq_false_iff, decide_eq_false_iff_not]
        omega
      rw [bytesOf?_unit hhigh hlow, ih, bytesOfCodePoint_toNat hunit.1]
      rfl
    next => rw [bytesOf?, ih, Option.map_some]

/-- A text is read back from its string. -/
theorem string?_writeString (text : String) (rest : List UInt8) :
    string? (writeString text ++ rest) = some (text, rest) := by
  have hopen : after? quote (writeString text ++ rest) =
      some ((Bytes.Utf8.ofText text).flatMap escape ++ quote :: rest) := by
    simp only [writeString, List.cons_append, List.append_assoc, List.nil_append]
    exact after?_cons rfl _
  simp only [string?, hopen, pieces?_flatMap_escape, bytesOf?_map_pieceOf,
    Bytes.Utf8.toText?_ofText, Option.bind_eq_bind, Option.bind_some, Option.pure_def]

/-! ### Natural numbers -/

/-- The byte of an ASCII character. -/
def asciiByte (c : Char) : UInt8 :=
  UInt8.ofNat c.toNat

theorem toNat_asciiByte {c : Char} (hc : c.isDigit = true) : (asciiByte c).toNat = c.toNat := by
  have hdigit := (Char.isDigit_iff_toNat.1 hc).2
  rw [asciiByte, UInt8.toNat_ofNat', Nat.mod_eq_of_lt (Nat.lt_of_le_of_lt hdigit (by decide))]

theorem isDigit_asciiByte {c : Char} (hc : c.isDigit = true) : isDigit (asciiByte c) = true := by
  obtain ⟨hlow, hhigh⟩ := Char.isDigit_iff_toNat.1 hc
  simp only [isDigit, Bool.and_eq_true, decide_eq_true_eq, UInt8.le_iff_toNat_le,
    toNat_asciiByte hc]
  exact ⟨hlow, hhigh⟩

theorem utf8EncodeChar_digit {c : Char} (hc : c.isDigit = true) :
    String.utf8EncodeChar c = [asciiByte c] := by
  have hdigit := (Char.isDigit_iff_toNat.1 hc).2
  exact if_pos (Nat.le_trans hdigit (by decide))

theorem flatMap_utf8EncodeChar {chars : List Char} (hdigits : ∀ c ∈ chars, c.isDigit = true) :
    chars.flatMap String.utf8EncodeChar = chars.map asciiByte := by
  induction chars with
  | nil => rfl
  | cons c rest ih =>
    obtain ⟨hc, hrest⟩ := List.forall_mem_cons.1 hdigits
    rw [List.flatMap_cons, utf8EncodeChar_digit hc, ih hrest, List.map_cons, List.singleton_append]

/-- The digits of a number as bytes have the value of the number. -/
theorem decimalValue_toDigits (n : Nat) :
    decimalValue ((Nat.toDigits 10 n).map asciiByte) = n := by
  have hvalue : ∀ (chars : List Char) (total : Nat), (∀ c ∈ chars, c.isDigit = true) →
      (chars.map asciiByte).foldl (fun total digit ↦ 10 * total + (digit.toNat - 0x30)) total =
        Nat.ofDigitChars 10 chars total := by
    intro chars
    induction chars with
    | nil => exact fun _ _ ↦ rfl
    | cons c rest ih =>
      intro total hdigits
      obtain ⟨hc, hrest⟩ := List.forall_mem_cons.1 hdigits
      rw [List.map_cons, List.foldl_cons, ih _ hrest, toNat_asciiByte hc]
      rfl
  have hdigits : ∀ c ∈ Nat.toDigits 10 n, c.isDigit = true := fun c hc ↦
    Nat.isDigit_of_mem_toDigits (by decide) (by decide) hc
  exact (hvalue _ 0 hdigits).trans Nat.ofDigitChars_ten_toDigits

/-- The digits of a positive number do not start with a zero. -/
theorem head?_toDigits_ne {n : Nat} (hn : 0 < n) : (Nat.toDigits 10 n).head? ≠ some '0' := by
  induction n using Nat.strongRecOn with
  | ind n ih =>
    rw [Nat.toDigits_eq_if (by decide)]
    split
    next hlt =>
      have hsingle : ∀ n < 10, 0 < n → [Nat.digitChar n].head? ≠ some '0' := by decide
      exact hsingle n hlt hn
    next hle =>
      have hfirst := ih (n / 10) (by omega) (by omega)
      cases hdigits : Nat.toDigits 10 (n / 10) with
      | nil => exact absurd hdigits Nat.toDigits_ne_nil
      | cons c rest => rwa [hdigits] at hfirst

theorem isNatural_toDigits (n : Nat) : isNatural ((Nat.toDigits 10 n).map asciiByte) = true := by
  cases n with
  | zero => rfl
  | succ n =>
    have hhead := head?_toDigits_ne (Nat.succ_pos n)
    have hdigits : ∀ c ∈ Nat.toDigits 10 (n + 1), c.isDigit = true := fun c hc ↦
      Nat.isDigit_of_mem_toDigits (by decide) (by decide) hc
    match hchars : Nat.toDigits 10 (n + 1), hhead, hdigits with
    | [], _, _ => exact absurd hchars Nat.toDigits_ne_nil
    | [_], _, _ => rfl
    | c :: _ :: _, hhead, hdigits =>
      have hc : c.isDigit = true := hdigits c List.mem_cons_self
      refine bne_iff_ne.2 fun hzero ↦ hhead ?_
      have hnat : c.toNat = 48 := by rw [← toNat_asciiByte hc, hzero]; rfl
      rw [List.head?_cons, ← Char.ofNat_toNat c, hnat]

theorem writeWord_eq (word : UInt64) :
    writeWord word = (Nat.toDigits 10 word.toNat).map asciiByte := by
  rw [writeWord, Nat.repr_eq_ofList_toDigits, Bytes.Utf8.ofText_ofList, flatMap_utf8EncodeChar]
  exact fun c hc ↦ Nat.isDigit_of_mem_toDigits (by decide) (by decide) hc

theorem isDigit_of_mem_writeWord (word : UInt64) :
    ∀ byte ∈ writeWord word, isDigit byte = true := by
  intro byte hbyte
  rw [writeWord_eq] at hbyte
  obtain ⟨c, hc, rfl⟩ := List.mem_map.1 hbyte
  exact isDigit_asciiByte (Nat.isDigit_of_mem_toDigits (by decide) (by decide) hc)

/-- No digit is a blank. -/
theorem isBlank_of_isDigit {byte : UInt8} (hbyte : isDigit byte = true) : isBlank byte = false := by
  cases hblank : isBlank byte with
  | false => rfl
  | true =>
    simp only [isBlank, Bool.or_eq_true, beq_iff_eq] at hblank
    rcases hblank with ((rfl | rfl) | rfl) | rfl <;> exact absurd hbyte (by decide)

theorem skipBlanks_writeWord (word : UInt64) (rest : List UInt8) :
    skipBlanks (writeWord word ++ rest) = writeWord word ++ rest := by
  cases hword : writeWord word with
  | nil => simp [writeWord_eq, Nat.toDigits_ne_nil] at hword
  | cons first others =>
    have hfirst := isDigit_of_mem_writeWord word first (hword ▸ List.mem_cons_self)
    exact skipBlanks_cons (isBlank_of_isDigit hfirst) _

/-- A number is read back from its digits, if no further digit follows. -/
theorem word?_writeWord (word : UInt64) {rest : List UInt8}
    (hrest : ∀ byte ∈ rest.head?, isDigit byte = false) :
    word? (writeWord word ++ rest) = some (word, rest) := by
  have hspan : (writeWord word ++ rest).span isDigit = (writeWord word, rest) := by
    rw [List.span_eq_takeWhile_dropWhile,
      List.takeWhile_append_of_pos (isDigit_of_mem_writeWord word),
      List.dropWhile_append_of_pos (isDigit_of_mem_writeWord word)]
    cases rest with
    | nil => simp
    | cons byte rest => simp [hrest byte rfl]
  have hvalid : (isNatural (writeWord word) &&
      decide (decimalValue (writeWord word) < Text.Numeral.bound)) = true := by
    rw [writeWord_eq, isNatural_toDigits, decimalValue_toDigits, Bool.true_and, decide_eq_true_eq]
    exact word.toNat_lt_size
  simp only [word?, skipBlanks_writeWord, hspan, hvalid, if_true]
  rw [writeWord_eq, decimalValue_toDigits, UInt64.ofNat_toNat]

end TokenMint.Json
