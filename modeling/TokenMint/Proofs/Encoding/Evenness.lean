import TokenMint.Proofs.Encoding.Groups
import Mathlib.Algebra.Order.Field.Basic
import Mathlib.Algebra.Order.Floor.Div
import Mathlib.Data.FinEnum
import Mathlib.Order.Interval.Finset.Nat
import Mathlib.SetTheory.Cardinal.Finite
import Mathlib.Tactic.FieldSimp
import Mathlib.Tactic.Linarith

/-!
# Letters are selected evenly

A 32-bit word selects a position by its product with the number of positions, of which the upper
half is taken. The words that select a position follow one another, from the first that reaches the
position (`firstWord`) to the first that reaches the next one, and so there are as many of them as
divide the words among the positions, rounded down or up (`selectingCount_eq`).

The `chance` of an event is the part of all values in which it occurs. The bytes behind a custom
token stand for its words one to one (`wordVector_bijective`), so a word of uniform bytes is
uniform, and each letter of the alphabet has the chance of its position (`chance_letter`). The main
statement is `words_select_evenly`.
-/

set_option autoImplicit false
set_option relaxedAutoImplicit false

namespace TokenMint.Encoding

/-! ### The words that select a position -/

variable {size index : Nat}

/-- The product and the shift do not leave 64 bits. -/
theorem toNat_shiftRight_product (hfits : size ≤ 2 ^ 32) (word : UInt32) :
    ((word.toUInt64 * UInt64.ofNat size) >>> 32).toNat = selectedIndex size word := by
  have hsize : (UInt64.ofNat size).toNat = size :=
    UInt64.toNat_ofNat_of_lt' (Nat.lt_of_le_of_lt hfits (by decide))
  have hproduct : word.toNat * size < 2 ^ 64 :=
    calc word.toNat * size ≤ word.toNat * 2 ^ 32 := Nat.mul_le_mul_left _ hfits
      _ < 2 ^ 32 * 2 ^ 32 := Nat.mul_lt_mul_of_pos_right word.toNat_lt (by decide)
      _ = 2 ^ 64 := by decide
  rw [UInt64.toNat_shiftRight, UInt64.toNat_mul, UInt32.toNat_toUInt64, hsize,
    Nat.mod_eq_of_lt hproduct, selectedIndex_eq_shiftRight]
  rfl

theorem selectedIndex_mono (size : Nat) {word word' : UInt32} (hle : word ≤ word') :
    selectedIndex size word ≤ selectedIndex size word' :=
  Nat.div_le_div_right (Nat.mul_le_mul_right size (UInt32.le_iff_toNat_le.1 hle))

/-- The number at which the words that select a position begin. -/
def firstWord (size index : Nat) : Nat :=
  index * 2 ^ 32 ⌈/⌉ size

theorem firstWord_le_iff (hsome : 0 < size) (word : UInt32) :
    firstWord size index ≤ word.toNat ↔ index ≤ selectedIndex size word := by
  rw [firstWord, ceilDiv_le_iff_le_mul hsome, selectedIndex, Nat.le_div_iff_mul_le (by decide),
    Nat.mul_comm size]
  rfl

theorem selectedIndex_eq_iff (hsome : 0 < size) (word : UInt32) :
    selectedIndex size word = index ↔
      word.toNat ∈ Finset.Ico (firstWord size index) (firstWord size (index + 1)) := by
  rw [Finset.mem_Ico, firstWord_le_iff hsome, ← Nat.not_le, firstWord_le_iff hsome, Nat.not_le]
  omega

theorem toNat_ofNat_of_mem (hsome : 0 < size) (hindex : index < size) {number : Nat}
    (hnumber : number ∈ Finset.Ico (firstWord size index) (firstWord size (index + 1))) :
    (UInt32.ofNat number).toNat = number := by
  -- The position behind the last one begins where the words end.
  have hlast : firstWord size (index + 1) ≤ 2 ^ 32 :=
    (ceilDiv_le_iff_le_mul hsome).2 (Nat.mul_le_mul_right _ hindex)
  exact UInt32.toNat_ofNat_of_lt' (Nat.lt_of_lt_of_le (Finset.mem_Ico.1 hnumber).2 hlast)

/-- The words that select a position, by their numbers. -/
def numbersSelecting (hsome : 0 < size) (hindex : index < size) :
    {word : UInt32 // selectedIndex size word = index} ≃
      Finset.Ico (firstWord size index) (firstWord size (index + 1)) where
  toFun word := ⟨word.1.toNat, (selectedIndex_eq_iff hsome word.1).1 word.2⟩
  invFun number := ⟨UInt32.ofNat number.1, (selectedIndex_eq_iff hsome _).2
    ((toNat_ofNat_of_mem hsome hindex number.2).symm ▸ number.2)⟩
  left_inv _ := Subtype.ext UInt32.ofNat_toNat
  right_inv number := Subtype.ext (toNat_ofNat_of_mem hsome hindex number.2)

/-- How many words select a position. -/
noncomputable def selectingCount (size index : Nat) : Nat :=
  Nat.card {word : UInt32 // selectedIndex size word = index}

theorem selectingCount_eq_sub (hsome : 0 < size) (hindex : index < size) :
    selectingCount size index = firstWord size (index + 1) - firstWord size index := by
  rw [selectingCount, Nat.card_congr (numbersSelecting hsome hindex), Nat.card_eq_fintype_card,
    Fintype.card_coe, Nat.card_Ico]

theorem firstWord_mul_bounds (hsome : 0 < size) (index : Nat) :
    index * 2 ^ 32 ≤ firstWord size index * size ∧
      firstWord size index * size < index * 2 ^ 32 + size := by
  constructor
  · rw [Nat.mul_comm (firstWord size index)]
    exact le_smul_ceilDiv hsome
  · have hle : firstWord size index * size ≤ index * 2 ^ 32 + size - 1 :=
      Nat.div_mul_le_self ..
    omega

/-- If every position had as many words as this one, the number of words would be missed by less
than the number of positions. -/
theorem selectingCount_mul_bounds (hsome : 0 < size) (hindex : index < size) :
    2 ^ 32 < selectingCount size index * size + size ∧
      selectingCount size index * size < 2 ^ 32 + size := by
  obtain ⟨hlower, hupper⟩ := firstWord_mul_bounds hsome index
  obtain ⟨hlower', hupper'⟩ := firstWord_mul_bounds hsome (index + 1)
  rw [selectingCount_eq_sub hsome hindex, Nat.sub_mul]
  omega

theorem selectingCount_eq (hsome : 0 < size) (hindex : index < size) :
    selectingCount size index = 2 ^ 32 / size ∨
      selectingCount size index = 2 ^ 32 ⌈/⌉ size := by
  obtain ⟨hlower, hupper⟩ := selectingCount_mul_bounds hsome hindex
  have hfloor : 2 ^ 32 / size ≤ selectingCount size index := by
    rw [← Nat.lt_succ_iff, Nat.div_lt_iff_lt_mul hsome, Nat.succ_mul]
    exact hlower
  have hceil : selectingCount size index ≤ 2 ^ 32 ⌈/⌉ size := by
    rw [Nat.ceilDiv_eq_add_pred_div, Nat.le_div_iff_mul_le hsome]
    omega
  have hnext : 2 ^ 32 ⌈/⌉ size ≤ 2 ^ 32 / size + 1 := by
    rw [ceilDiv_le_iff_le_mul hsome]
    exact (Nat.lt_mul_div_succ _ hsome).le
  omega

/-! ### Chances -/

/-- The chance of an event, if all values of a finite type are equally likely. -/
noncomputable def chance {α : Type} (event : α → Prop) : ℚ :=
  Nat.card {value // event value} / Nat.card α

/-- What becomes of the rest makes no difference to the chance of an event that is about one part
of the values. -/
theorem chance_part {α β γ : Type} [Finite γ] [Nonempty γ] (parts : α ≃ β × γ)
    (event : β → Prop) : chance (fun value ↦ event (parts value).1) = chance event := by
  have hevent : Nat.card {value // event (parts value).1} =
      Nat.card {part // event part} * Nat.card γ := by
    rw [Nat.card_congr (parts.subtypeEquiv (q := fun pair ↦ event pair.1) fun _ ↦ Iff.rfl),
      Nat.card_congr Equiv.prodSubtypeFstEquivSubtypeProd, Nat.card_prod]
  have hrest : (Nat.card γ : ℚ) ≠ 0 := Nat.cast_ne_zero.2 Nat.card_pos.ne'
  rw [chance, chance, hevent, Nat.card_congr parts, Nat.card_prod, Nat.cast_mul, Nat.cast_mul,
    mul_div_mul_right _ _ hrest]

/-- A chance that is as near to one in `size` as can be expected of a choice by one word, and so
within the bound that grows with the number of positions. -/
def IsNearOneIn (size : Nat) (value : ℚ) : Prop :=
  |value - 1 / size| < 1 / 2 ^ 32 ∧ |value - 1 / size| ≤ size / 2 ^ 32

theorem card_words : Nat.card UInt32 = 2 ^ 32 :=
  (Nat.card_congr ⟨UInt32.toFin, UInt32.ofFin, fun _ ↦ rfl, fun _ ↦ rfl⟩).trans (Nat.card_fin _)

theorem card_bytes : Nat.card UInt8 = 2 ^ 8 :=
  (Nat.card_congr ⟨UInt8.toFin, UInt8.ofFin, fun _ ↦ rfl, fun _ ↦ rfl⟩).trans (Nat.card_fin _)

theorem isNearOneIn_chance (hsome : 0 < size) (hindex : index < size) :
    IsNearOneIn size (chance fun word : UInt32 ↦ selectedIndex size word = index) := by
  obtain ⟨hlower, hupper⟩ := selectingCount_mul_bounds hsome hindex
  have hpos : (0 : ℚ) < size := Nat.cast_pos.2 hsome
  have hmiss : |(selectingCount size index * size - 2 ^ 32 : ℚ)| < size := by
    have hlower' : (2 ^ 32 : ℚ) < selectingCount size index * size + size := by
      exact_mod_cast hlower
    have hupper' : (selectingCount size index * size : ℚ) < 2 ^ 32 + size := by
      exact_mod_cast hupper
    exact abs_lt.2 ⟨by linarith, by linarith⟩
  have hchance : chance (fun word : UInt32 ↦ selectedIndex size word = index) =
      selectingCount size index / 2 ^ 32 := by
    rw [chance, card_words, selectingCount]
    norm_cast
  have hdiff : (selectingCount size index / 2 ^ 32 - 1 / size : ℚ) =
      (selectingCount size index * size - 2 ^ 32) / (2 ^ 32 * size) := by
    rw [div_sub_div _ _ (by positivity) hpos.ne', mul_one]
  have hnear : |(selectingCount size index / 2 ^ 32 - 1 / size : ℚ)| < 1 / 2 ^ 32 :=
    calc |(selectingCount size index / 2 ^ 32 - 1 / size : ℚ)|
        = |(selectingCount size index * size - 2 ^ 32 : ℚ)| / (2 ^ 32 * size) := by
          rw [hdiff, abs_div, abs_of_pos (by positivity : (0 : ℚ) < 2 ^ 32 * size)]
      _ < size / (2 ^ 32 * size) := div_lt_div_of_pos_right hmiss (by positivity)
      _ = 1 / 2 ^ 32 := by field_simp
  rw [hchance]
  refine ⟨hnear, hnear.le.trans ?_⟩
  exact div_le_div_of_nonneg_right (Nat.one_le_cast.2 hsome) (by positivity)

/-! ### Words of uniform bytes -/

/-- Four bytes are the digits of the word that they write. -/
theorem bytes_eq_of_word_eq {a b c d a' b' c' d' : UInt8}
    (hword : UInt32.ofNat (((a.toNat * 256 + b.toNat) * 256 + c.toNat) * 256 + d.toNat) =
      UInt32.ofNat (((a'.toNat * 256 + b'.toNat) * 256 + c'.toNat) * 256 + d'.toNat)) :
    a = a' ∧ b = b' ∧ c = c' ∧ d = d' := by
  have hfits (a b c d : UInt8) :
      ((a.toNat * 256 + b.toNat) * 256 + c.toNat) * 256 + d.toNat < 2 ^ 32 := by
    simpa [bigEndian] using bigEndian_lt [a, b, c, d]
  have hdigit {front front' : Nat} {byte byte' : UInt8}
      (hsame : front * 256 + byte.toNat = front' * 256 + byte'.toNat) :
      front = front' ∧ byte = byte' := by
    have hbyte := byte.toNat_lt
    have hbyte' := byte'.toNat_lt
    exact ⟨by omega, UInt8.toNat_inj.1 (by omega)⟩
  have hnumber := congrArg UInt32.toNat hword
  rw [UInt32.toNat_ofNat_of_lt' (hfits a b c d),
    UInt32.toNat_ofNat_of_lt' (hfits a' b' c' d')] at hnumber
  obtain ⟨habc, hd⟩ := hdigit hnumber
  obtain ⟨hab, hc⟩ := hdigit habc
  obtain ⟨ha, hb⟩ := hdigit hab
  exact ⟨UInt8.toNat_inj.1 ha, hb, hc, hd⟩

/-- Bytes that make whole words can be told from their words. -/
theorem eq_of_wordsOf_eq {raw raw' : List UInt8} (hwhole : raw.length % bytesPerCharacter = 0)
    (hlength : raw.length = raw'.length) (hwords : wordsOf raw = wordsOf raw') : raw = raw' := by
  fun_induction wordsOf raw generalizing raw' with
  | case1 a b c d rest ih =>
    obtain ⟨a', b', c', d', rest', rfl⟩ :
        ∃ a' b' c' d' rest', raw' = a' :: b' :: c' :: d' :: rest' := by
      rcases raw' with _ | ⟨a', _ | ⟨b', _ | ⟨c', _ | ⟨d', rest'⟩⟩⟩⟩
      case cons.cons.cons.cons => exact ⟨a', b', c', d', rest', rfl⟩
      all_goals simp at hlength
    obtain ⟨hword, hrest⟩ := List.cons.inj hwords
    obtain ⟨rfl, rfl, rfl, rfl⟩ := bytes_eq_of_word_eq hword
    simp only [List.length_cons, Nat.add_right_cancel_iff] at hlength
    have hwhole' : rest.length % bytesPerCharacter = 0 := by
      simp only [List.length_cons, bytesPerCharacter] at hwhole ⊢
      omega
    rw [ih hwhole' hlength hrest]
  | case2 raw hshort =>
    -- Too few bytes for a word make whole words only if there are none.
    have hnone := length_wordsOf raw
    rw [wordsOf.eq_2 raw hshort, List.length_nil] at hnone
    have hempty : raw.length = 0 := by
      simp only [bytesPerCharacter] at hwhole hnone
      omega
    rw [List.length_eq_zero_iff.1 hempty, List.length_eq_zero_iff.1 (hlength.symm.trans hempty)]

/-- The words behind a custom token of the given length. -/
def wordVector {length : Nat} (raw : List.Vector UInt8 (Format.custom.entropySize length)) :
    List.Vector UInt32 length :=
  ⟨wordsOf raw.toList, by
    rw [length_wordsOf, raw.toList_length]
    exact Nat.mul_div_cancel _ (by decide)⟩

theorem wordVector_bijective (length : Nat) :
    Function.Bijective (wordVector : _ → List.Vector UInt32 length) := by
  refine (Nat.bijective_iff_injective_and_card _).2 ⟨fun raw raw' hwords ↦ ?_, ?_⟩
  · refine List.Vector.eq raw raw' (eq_of_wordsOf_eq ?_ ?_ (congrArg List.Vector.toList hwords))
    · rw [raw.toList_length]
      exact Nat.mul_mod_left ..
    · rw [raw.toList_length, raw'.toList_length]
  · have hexponent : 8 * Format.custom.entropySize length = 32 * length := by
      simp only [Format.entropySize, bytesPerCharacter]
      omega
    rw [Nat.card_eq_fintype_card, Nat.card_eq_fintype_card, card_vector, card_vector,
      ← Nat.card_eq_fintype_card, ← Nat.card_eq_fintype_card, card_bytes, card_words, ← pow_mul,
      ← pow_mul, hexponent]

/-- One of the words behind a custom token, and the other ones. -/
noncomputable def wordAt {length : Nat} (position : Fin length) :
    List.Vector UInt8 (Format.custom.entropySize length) ≃
      UInt32 × ({other // other ≠ position} → UInt32) :=
  (Equiv.ofBijective _ (wordVector_bijective length)).trans
    ((Equiv.vectorEquivFin UInt32 length).trans (Equiv.funSplitAt position UInt32))

theorem getElem?_wordsOf {length : Nat} (position : Fin length)
    (raw : List.Vector UInt8 (Format.custom.entropySize length)) :
    (wordsOf raw.toList)[position.1]? = some (wordAt position raw).1 := by
  have hposition : position.1 < (wordsOf raw.toList).length :=
    (wordVector raw).toList_length.symm ▸ position.2
  rw [List.getElem?_eq_getElem hposition]
  exact congrArg some (List.Vector.get_eq_get_toList (wordVector raw) position).symm

/-! ### Letters -/

theorem pick_eq_get_iff (alphabet : Alphabet) (hindex : index < alphabet.size) (word : UInt32) :
    alphabet.pick word = alphabet.chars.get ⟨index, hindex⟩ ↔
      selectedIndex alphabet.size word = index :=
  alphabet.nodup.get_inj_iff.trans Fin.mk_eq_mk

/-- The characters of a token without the separators between its groups. -/
def lettersOf (text : String) : List Char :=
  text.toList.filter (· != groupSeparator)

theorem lettersOf_custom (alphabet : Alphabet) (raw : List UInt8) (grouping : Nat) :
    lettersOf (custom raw alphabet grouping) = (wordsOf raw).map alphabet.pick := by
  rw [lettersOf, custom, String.toList_ofList,
    filter_grouped grouping (separator_not_mem_customCharacters alphabet raw), customCharacters]

/-- A letter has the chance of its position in the alphabet, wherever it stands in the token. -/
theorem chance_letter (alphabet : Alphabet) (grouping : Nat) {length : Nat} (position : Fin length)
    (hindex : index < alphabet.size) :
    chance (fun raw : List.Vector UInt8 (Format.custom.entropySize length) ↦
        (lettersOf (custom raw.toList alphabet grouping))[position.1]? =
          some (alphabet.chars.get ⟨index, hindex⟩)) =
      chance fun word : UInt32 ↦ selectedIndex alphabet.size word = index := by
  rw [← chance_part (wordAt position)]
  congr 1
  funext raw
  rw [lettersOf_custom, List.getElem?_map, getElem?_wordsOf, Option.map_some, Option.some_inj]
  exact propext (pick_eq_get_iff alphabet hindex _)

/-! ### The main statement -/

/-- What it means that words select among `size` positions evenly. -/
structure SelectsEvenly (size : Nat) : Prop where
  /-- The position can be computed in 64 bits. -/
  toNat_product (word : UInt32) :
    ((word.toUInt64 * UInt64.ofNat size) >>> 32).toNat = selectedIndex size word
  lt_size (word : UInt32) : selectedIndex size word < size
  mono {word word' : UInt32} (hle : word ≤ word') :
    selectedIndex size word ≤ selectedIndex size word'
  /-- The words are divided among the positions as evenly as whole words can be. -/
  count_eq {index : Nat} (hindex : index < size) :
    selectingCount size index = 2 ^ 32 / size ∨ selectingCount size index = 2 ^ 32 ⌈/⌉ size
  chance_near {index : Nat} (hindex : index < size) :
    IsNearOneIn size (chance fun word : UInt32 ↦ selectedIndex size word = index)

/-- Words select evenly among any number of positions that is no larger than the number of words.
So, for uniform bytes, every character of a custom token is each letter of the alphabet with nearly
the same chance. -/
theorem words_select_evenly (hsome : 0 < size) (hfits : size ≤ 2 ^ 32) :
    SelectsEvenly size ∧
      ∀ alphabet : Alphabet, alphabet.size = size → ∀ letter ∈ alphabet.chars,
        ∀ (grouping : Nat) {length position : Nat}, position < length →
          IsNearOneIn size
            (chance fun raw : List.Vector UInt8 (Format.custom.entropySize length) ↦
              (lettersOf (custom raw.toList alphabet grouping))[position]? = some letter) := by
  constructor
  · exact ⟨toNat_shiftRight_product hfits, selectedIndex_lt hsome, selectedIndex_mono size,
      selectingCount_eq hsome, isNearOneIn_chance hsome⟩
  · rintro alphabet rfl letter hletter grouping length position hposition
    obtain ⟨⟨index, hindex⟩, rfl⟩ := List.get_of_mem hletter
    rw [chance_letter alphabet grouping ⟨position, hposition⟩ hindex]
    exact isNearOneIn_chance hsome hindex

/-- Five letters do not divide the words evenly. -/
theorem words_select_evenly_greek :
    ∃ alphabet, Alphabet.ofString "αβγδε" = .ok alphabet ∧ alphabet.size = 5 ∧
      SelectsEvenly 5 ∧ (2 ^ 32) % 5 ≠ 0 ∧
      IsNearOneIn 5 (chance fun raw : List.Vector UInt8 (Format.custom.entropySize 8) ↦
        (lettersOf (custom raw.toList alphabet 4))[7]? = some 'ε') := by
  obtain ⟨alphabet, hread⟩ : ∃ alphabet, Alphabet.ofString "αβγδε" = .ok alphabet := ⟨_, rfl⟩
  have hchars := Alphabet.chars_of_ofString hread
  have hsize : alphabet.size = 5 := congrArg List.length hchars
  have hletter : 'ε' ∈ alphabet.chars := hchars ▸ by decide
  obtain ⟨hevenly, hletters⟩ := words_select_evenly (by decide : 0 < 5) (by decide)
  exact ⟨alphabet, hread, hsize, hevenly, by decide,
    hletters alphabet hsize 'ε' hletter 4 (by decide)⟩

end TokenMint.Encoding
