import TokenMint.Fault

/-!
# Alphabets of custom tokens

An `Alphabet` has between two and 256 distinct characters, none of which is the separator of
groups. `Alphabet.ofString` accepts exactly the texts that are one (`ofString_eq_ok_iff`), and names
the first fault otherwise. `pick` chooses a character by a 32-bit word, at the `selectedIndex` of the
word, which is always a position of the alphabet (`index_lt`).
-/

set_option autoImplicit false
set_option relaxedAutoImplicit false

namespace TokenMint

/-- The character between groups of custom characters. -/
def groupSeparator : Char := '-'

/-- The fewest characters of an alphabet. -/
abbrev alphabetMinSize : Nat := 2

/-- The most characters of an alphabet. -/
abbrev alphabetMaxSize : Nat := 256

/-- The position that a 32-bit word selects among `size` positions: the whole part of the word times
`size` by two to the thirty-second. -/
def selectedIndex (size : Nat) (word : UInt32) : Nat :=
  word.toNat * size / UInt32.size

theorem selectedIndex_lt {size : Nat} (hsize : 0 < size) (word : UInt32) :
    selectedIndex size word < size := by
  rw [selectedIndex, Nat.div_lt_iff_lt_mul (by decide), Nat.mul_comm]
  exact Nat.mul_lt_mul_of_pos_left word.toNat_lt_size hsize

/-- The characters of custom tokens. -/
structure Alphabet where
  /-- The characters, in order. -/
  chars : List Char
  minSize_le : alphabetMinSize ≤ chars.length
  le_maxSize : chars.length ≤ alphabetMaxSize
  separator_not_mem : groupSeparator ∉ chars
  nodup : chars.Nodup
  deriving DecidableEq

namespace Alphabet

/-- The first character that has occurred before, counting positions from the given one. -/
def firstRepeat (seen : List Char) (position : Nat) : List Char → Option (Char × Nat)
  | [] => none
  | c :: rest =>
    if c ∈ seen then some (c, position) else firstRepeat (c :: seen) (position + 1) rest

theorem firstRepeat_eq_none_iff (seen : List Char) (position : Nat) (chars : List Char) :
    firstRepeat seen position chars = none ↔ chars.Nodup ∧ ∀ c ∈ chars, c ∉ seen := by
  induction chars generalizing seen position with
  | nil => simp [firstRepeat]
  | cons c rest ih =>
    simp only [firstRepeat]
    split
    next hseen => simp [hseen]
    next hseen =>
      rw [ih, List.nodup_cons]
      constructor
      · rintro ⟨hrest, hfresh⟩
        refine ⟨⟨fun hc ↦ hfresh c hc List.mem_cons_self, hrest⟩, ?_⟩
        intro other hother
        rcases List.mem_cons.1 hother with rfl | hother
        · exact hseen
        · exact fun h ↦ hfresh other hother (List.mem_cons_of_mem _ h)
      · rintro ⟨⟨hc, hrest⟩, hfresh⟩
        refine ⟨hrest, fun other hother h ↦ ?_⟩
        rcases List.mem_cons.1 h with rfl | h
        · exact hc hother
        · exact hfresh other (List.mem_cons_of_mem _ hother) h

/-- The alphabet of a text, or the first fault: too short, too long, the separator, a repetition. -/
def ofString (text : String) : Except ConfigFault Alphabet :=
  let chars := text.toList
  if hmin : chars.length < alphabetMinSize then .error .alphabetTooShort
  else if hmax : alphabetMaxSize < chars.length then .error .alphabetTooLong
  else if hseparator : groupSeparator ∈ chars then .error .alphabetHoldsSeparator
  else
    match hrepeat : firstRepeat [] 0 chars with
    | some (c, position) => .error (.alphabetRepeats c position)
    | none =>
      .ok ⟨chars, Nat.le_of_not_lt hmin, Nat.le_of_not_lt hmax, hseparator,
        ((firstRepeat_eq_none_iff [] 0 chars).1 hrepeat).1⟩

/-- The characters of an alphabet that was read are those of the text, in order. -/
theorem chars_of_ofString {text : String} {alphabet : Alphabet}
    (hread : ofString text = .ok alphabet) : alphabet.chars = text.toList := by
  simp only [ofString] at hread
  split at hread
  next => nomatch hread
  next =>
    split at hread
    next => nomatch hread
    next =>
      split at hread
      next => nomatch hread
      next =>
        split at hread
        next => nomatch hread
        next =>
          obtain rfl := Except.ok.inj hread
          rfl

/-- A text is read as the alphabet that has its characters, in order, if there is one. -/
theorem ofString_eq_ok_iff {text : String} {alphabet : Alphabet} :
    ofString text = .ok alphabet ↔ alphabet.chars = text.toList := by
  refine ⟨chars_of_ofString, fun hchars ↦ ?_⟩
  obtain ⟨chars, hmin, hmax, hseparator, hnodup⟩ := alphabet
  obtain rfl : chars = text.toList := hchars
  have hrepeat : firstRepeat [] 0 text.toList = none :=
    (firstRepeat_eq_none_iff [] 0 text.toList).2 ⟨hnodup, fun c _ ↦ List.not_mem_nil⟩
  simp only [ofString]
  rw [dif_neg (Nat.not_lt.2 hmin), dif_neg (Nat.not_lt.2 hmax), dif_neg hseparator]
  split
  next c position hfound => exact absurd (hrepeat.symm.trans hfound) nofun
  next => rfl

/-- The alphabet as a text. -/
def text (alphabet : Alphabet) : String :=
  String.ofList alphabet.chars

/-- The number of characters. -/
def size (alphabet : Alphabet) : Nat :=
  alphabet.chars.length

/-- The position that a word selects. -/
def index (alphabet : Alphabet) (word : UInt32) : Nat :=
  selectedIndex alphabet.size word

theorem size_pos (alphabet : Alphabet) : 0 < alphabet.size :=
  Nat.lt_of_lt_of_le (by decide) alphabet.minSize_le

theorem index_lt (alphabet : Alphabet) (word : UInt32) : alphabet.index word < alphabet.size :=
  selectedIndex_lt alphabet.size_pos word

/-- The character that a word selects. -/
def pick (alphabet : Alphabet) (word : UInt32) : Char :=
  alphabet.chars.get ⟨alphabet.index word, alphabet.index_lt word⟩

end Alphabet

end TokenMint
