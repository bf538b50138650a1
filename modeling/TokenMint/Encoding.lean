import TokenMint.Alphabet
import TokenMint.Bytes.Base64
import TokenMint.Bytes.Hex
import TokenMint.Format

/-!
# Writing random bytes as token text

`encode` writes the bytes of one token in a format. The byte formats write every byte; custom tokens
read four bytes at a time as one word, most significant byte first, pick a character for each word
and set the characters apart in groups. `length_customCharacters` and `length_grouped` give the
number of characters.
-/

set_option autoImplicit false
set_option relaxedAutoImplicit false

namespace TokenMint.Encoding

/-- The words of four bytes each, the most significant byte first; bytes left over are ignored. -/
def wordsOf : List UInt8 → List UInt32
  | a :: b :: c :: d :: rest =>
    UInt32.ofNat (((a.toNat * 256 + b.toNat) * 256 + c.toNat) * 256 + d.toNat) :: wordsOf rest
  | _ => []

/-- The characters with a separator before each one that finds the current group full; `room` is
how many characters the current group still takes. -/
def separated (size : Nat) : Nat → List Char → List Char
  | _, [] => []
  | 0, c :: rest => groupSeparator :: c :: separated size (size - 1) rest
  | room + 1, c :: rest => c :: separated size room rest

/-- The characters in groups of `size`, or as they are if it is zero. -/
def grouped (size : Nat) (chars : List Char) : List Char :=
  if size = 0 then chars else separated size size chars

/-- The characters that random bytes select from an alphabet. -/
def customCharacters (alphabet : Alphabet) (raw : List UInt8) : List Char :=
  (wordsOf raw).map alphabet.pick

/-- Bytes as lowercase hexadecimal text. -/
def hex (raw : List UInt8) : String :=
  String.ofList (Bytes.Hex.encode raw)

/-- Bytes as base64 text. -/
def base64 (variant : Bytes.Base64) (raw : List UInt8) : String :=
  String.ofList (variant.encode raw)

/-- Bytes as characters of an alphabet, in groups of `grouping`. -/
def custom (raw : List UInt8) (alphabet : Alphabet) (grouping : Nat) : String :=
  String.ofList (grouped grouping (customCharacters alphabet raw))

/-- The text of one token. -/
def encode (raw : List UInt8) (format : Format) (alphabet : Option Alphabet) (grouping : Nat) :
    Except ConfigFault String :=
  if raw.isEmpty then .error .emptyToken
  else
    match format with
    | .hex => .ok (hex raw)
    | .base64Url => .ok (base64 .urlSafe raw)
    | .base64 => .ok (base64 .standard raw)
    | .custom =>
      match alphabet with
      | none => .error .alphabetMissing
      | some alphabet =>
        if raw.length % bytesPerCharacter = 0 then .ok (custom raw alphabet grouping)
        else .error .partialCharacter

theorem length_wordsOf (raw : List UInt8) :
    (wordsOf raw).length = raw.length / bytesPerCharacter := by
  fun_induction wordsOf raw with
  | case1 a b c d rest ih =>
    simp only [List.length_cons, ih, bytesPerCharacter]
    omega
  | case2 raw hshort =>
    match raw, hshort with
    | [], _ | [_], _ | [_, _], _ | [_, _, _], _ =>
      exact (Nat.div_eq_of_lt (by simp [bytesPerCharacter])).symm
    | a :: b :: c :: d :: rest, hshort => exact absurd rfl (hshort a b c d rest)

theorem length_customCharacters (alphabet : Alphabet) (raw : List UInt8) :
    (customCharacters alphabet raw).length = raw.length / bytesPerCharacter := by
  rw [customCharacters, List.length_map, length_wordsOf]

theorem length_separated {size : Nat} (hsize : 0 < size) (room : Nat) (chars : List Char) :
    (separated size room chars).length =
      chars.length + (chars.length + size - 1 - room) / size := by
  fun_induction separated size room chars with
  | case1 room =>
    rw [List.length_nil, Nat.div_eq_of_lt (by omega)]
  | case2 c rest ih =>
    have hdiv : (rest.length + 1 + size - 1 - 0) / size = rest.length / size + 1 := by
      rw [show rest.length + 1 + size - 1 - 0 = rest.length + size by omega,
        Nat.add_div_right _ hsize]
    simp only [List.length_cons, ih, hdiv]
    rw [show rest.length + size - 1 - (size - 1) = rest.length by omega]
    omega
  | case3 room c rest ih =>
    simp only [List.length_cons, ih]
    rw [show rest.length + 1 + size - 1 - (room + 1) = rest.length + size - 1 - room by omega]
    omega

/-- Grouping adds the separators and nothing else to the number of characters. -/
theorem length_grouped (size : Nat) (chars : List Char) :
    (grouped size chars).length = chars.length + separatorCount chars.length size := by
  unfold grouped separatorCount
  by_cases hsize : size = 0
  · simp [hsize]
  · rw [if_neg hsize, length_separated (Nat.pos_of_ne_zero hsize)]
    by_cases hlength : chars.length = 0
    · rw [if_pos (.inr hlength), hlength, Nat.div_eq_of_lt (by omega)]
    · rw [if_neg (by omega), show chars.length + size - 1 - size = chars.length - 1 by omega]

end TokenMint.Encoding
