import TokenMint.Encoding
import Mathlib.Algebra.Group.Nat.Defs

/-!
# The shape of custom tokens

A custom token has one character for every four bytes, and bytes left over make no difference
(`wordsOf_take`). The four bytes write a number, and this number, scaled to the size of the
alphabet, is the position of the character (`getElem?_customCharacters`). Separators stand between
groups of characters, all of them full but perhaps the last one; `Groups` says which lists of groups
these are. Any characters have groups (`exists_groups`), the text is the groups with a separator
between each of them and the next (`Groups.separated_eq`), and so splitting the text at separators
finds the groups again (`Groups.splitOn_separated`). The main statement is `custom_has_shape`.
-/

set_option autoImplicit false
set_option relaxedAutoImplicit false

namespace TokenMint.Encoding

/-! ### Words and the characters that they select -/

/-- The number that bytes write, the most significant byte first. -/
def bigEndian (bytes : List UInt8) : Nat :=
  bytes.foldl (fun value byte ↦ value * 256 + byte.toNat) 0

/-- The bytes behind the character at an index. -/
def bytesBehind (raw : List UInt8) (index : Nat) : List UInt8 :=
  (raw.drop (index * bytesPerCharacter)).take bytesPerCharacter

/-- The words are the numbers that the bytes behind the characters write. -/
theorem wordsOf_eq_map (raw : List UInt8) :
    wordsOf raw = (List.range (raw.length / bytesPerCharacter)).map fun index ↦
      UInt32.ofNat (bigEndian (bytesBehind raw index)) := by
  fun_induction wordsOf raw with
  | case1 a b c d rest ih =>
    have hlength : (a :: b :: c :: d :: rest).length / bytesPerCharacter =
        rest.length / bytesPerCharacter + 1 := by
      simp only [List.length_cons, bytesPerCharacter]
      omega
    have hnext (index : Nat) :
        bytesBehind (a :: b :: c :: d :: rest) (index + 1) = bytesBehind rest index := by
      rw [bytesBehind, Nat.succ_mul]
      rfl
    have hfirst : bigEndian (bytesBehind (a :: b :: c :: d :: rest) 0) =
        ((a.toNat * 256 + b.toNat) * 256 + c.toNat) * 256 + d.toNat := by
      simp [bigEndian, bytesBehind]
    rw [hlength, List.range_succ_eq_map, List.map_cons, List.map_map, hfirst, ih]
    simp only [Function.comp_def, Nat.succ_eq_add_one, hnext]
  | case2 raw hshort =>
    have hnone := length_wordsOf raw
    rw [wordsOf.eq_2 raw hshort] at hnone
    rw [← hnone]
    rfl

theorem bigEndian_lt (bytes : List UInt8) : bigEndian bytes < 256 ^ bytes.length := by
  have hfrom (start : Nat) : bytes.foldl (fun value byte ↦ value * 256 + byte.toNat) start <
      (start + 1) * 256 ^ bytes.length := by
    induction bytes generalizing start with
    | nil => simp
    | cons byte rest ih =>
      have hbyte := byte.toNat_lt
      calc (byte :: rest).foldl (fun value byte ↦ value * 256 + byte.toNat) start
          < (start * 256 + byte.toNat + 1) * 256 ^ rest.length := ih _
        _ ≤ (start + 1) * 256 * 256 ^ rest.length := Nat.mul_le_mul_right _ (by omega)
        _ = (start + 1) * 256 ^ (byte :: rest).length := by
          rw [List.length_cons, Nat.pow_succ, Nat.mul_assoc, Nat.mul_comm 256]
  simpa [bigEndian] using hfrom 0

theorem toNat_word (raw : List UInt8) (index : Nat) :
    (UInt32.ofNat (bigEndian (bytesBehind raw index))).toNat =
      bigEndian (bytesBehind raw index) := by
  have hlength : (bytesBehind raw index).length ≤ bytesPerCharacter := List.length_take_le ..
  refine UInt32.toNat_ofNat_of_lt' (Nat.lt_of_lt_of_le (bigEndian_lt _) ?_)
  exact Nat.pow_le_pow_right (by decide) hlength

/-- Bytes left over after the last word make no difference. -/
theorem wordsOf_take (raw : List UInt8) :
    wordsOf (raw.take (raw.length / bytesPerCharacter * bytesPerCharacter)) = wordsOf raw := by
  have hlength : (raw.take (raw.length / bytesPerCharacter * bytesPerCharacter)).length /
      bytesPerCharacter = raw.length / bytesPerCharacter := by
    rw [List.length_take, Nat.min_eq_left (Nat.div_mul_le_self ..),
      Nat.mul_div_cancel _ (by decide)]
  rw [wordsOf_eq_map, wordsOf_eq_map, hlength]
  refine List.map_congr_left fun index hindex ↦ ?_
  have hword : index * bytesPerCharacter + bytesPerCharacter ≤
      raw.length / bytesPerCharacter * bytesPerCharacter := by
    rw [← Nat.succ_mul]
    exact Nat.mul_le_mul_right _ (List.mem_range.1 hindex)
  rw [bytesBehind, List.drop_take, List.take_take, Nat.min_eq_left (by omega), bytesBehind]

/-- The position that a word selects, by a multiplication and a shift. -/
theorem selectedIndex_eq_shiftRight (size : Nat) (word : UInt32) :
    selectedIndex size word = (word.toNat * size) >>> 32 := by
  rw [Nat.shiftRight_eq_div_pow]
  rfl

/-- The position of the character at an index, in an alphabet of the given size. -/
def positionOf (size : Nat) (raw : List UInt8) (index : Nat) : Nat :=
  (bigEndian (bytesBehind raw index) * size) >>> 32

theorem getElem?_customCharacters (alphabet : Alphabet) (raw : List UInt8) {index : Nat}
    (hindex : index < raw.length / bytesPerCharacter) :
    positionOf alphabet.size raw index < alphabet.size ∧
      (customCharacters alphabet raw)[index]? =
        alphabet.chars[positionOf alphabet.size raw index]? := by
  have hposition : alphabet.index (.ofNat (bigEndian (bytesBehind raw index))) =
      positionOf alphabet.size raw index := by
    rw [Alphabet.index, selectedIndex_eq_shiftRight, toNat_word, positionOf]
  have hlt := alphabet.index_lt (.ofNat (bigEndian (bytesBehind raw index)))
  rw [hposition] at hlt
  refine ⟨hlt, ?_⟩
  rw [customCharacters, wordsOf_eq_map, List.map_map, List.getElem?_map,
    List.getElem?_range hindex, Option.map_some, List.getElem?_eq_getElem hlt]
  simp only [Function.comp_apply, Alphabet.pick, List.get_eq_getElem, hposition]
  rfl

theorem separator_not_mem_customCharacters (alphabet : Alphabet) (raw : List UInt8) :
    groupSeparator ∉ customCharacters alphabet raw := by
  intro hmem
  obtain ⟨word, -, hpick⟩ := List.mem_map.1 hmem
  exact alphabet.separator_not_mem (hpick ▸ List.get_mem ..)

/-! ### Groups -/

/-- Characters in groups, all of them full but the last one, which may be shorter. -/
inductive Groups (size : Nat) : List Char → List (List Char) → Prop where
  | last {group : List Char} (hsome : group ≠ []) (hsize : group.length ≤ size) :
    Groups size group [group]
  | next {group rest : List Char} {groups : List (List Char)} (hfull : group.length = size)
    (hrest : Groups size rest groups) : Groups size (group ++ rest) (group :: groups)

variable {size : Nat} {chars : List Char} {groups : List (List Char)}

theorem exists_groups (hsize : 0 < size) (hsome : chars ≠ []) :
    ∃ groups, Groups size chars groups := by
  -- A full group is taken off as long as there are more characters than fit in one.
  induction hlength : chars.length using Nat.strongRecOn generalizing chars with
  | ind length ih =>
    by_cases hfits : chars.length ≤ size
    · exact ⟨_, .last hsome hfits⟩
    · have hdrop : (chars.drop size).length = chars.length - size := List.length_drop ..
      have hrest : chars.drop size ≠ [] := List.length_pos_iff.1 (by omega)
      obtain ⟨groups, hgroups⟩ := ih (chars.drop size).length (by omega) hrest rfl
      have hfull : (chars.take size).length = size := List.length_take_of_le (by omega)
      have hnext := Groups.next hfull hgroups
      rw [List.take_append_drop] at hnext
      exact ⟨_, hnext⟩

theorem separated_of_length_le {room : Nat} (hfits : chars.length ≤ room) :
    separated size room chars = chars := by
  fun_induction separated size room chars with
  | case1 => rfl
  | case2 => simp at hfits
  | case3 room c rest ih => rw [ih (Nat.le_of_succ_le_succ hfits)]

theorem separated_append (group rest : List Char) :
    separated size group.length (group ++ rest) = group ++ separated size 0 rest := by
  induction group with
  | nil => rfl
  | cons c group ih => rw [List.cons_append, List.length_cons, separated, ih, List.cons_append]

theorem separated_zero (hsize : 0 < size) (hsome : chars ≠ []) :
    separated size 0 chars = groupSeparator :: separated size size chars := by
  obtain ⟨room, rfl⟩ := Nat.exists_eq_succ_of_ne_zero (Nat.ne_of_gt hsize)
  cases chars with
  | nil => exact absurd rfl hsome
  | cons c rest => rfl

namespace Groups

theorem ne_nil (hgroups : Groups size chars groups) : groups ≠ [] := by
  cases hgroups <;> simp

theorem flatten_eq (hgroups : Groups size chars groups) : groups.flatten = chars := by
  induction hgroups with
  | last => simp
  | next _ _ ih => rw [List.flatten_cons, ih]

theorem chars_ne_nil (hgroups : Groups size chars groups) : chars ≠ [] := by
  induction hgroups with
  | last hsome => exact hsome
  | next _ _ ih => exact List.append_ne_nil_of_right_ne_nil _ ih

/-- The number of groups is the number of characters by the size of a group, rounded up. -/
theorem length_eq (hsize : 0 < size) (hgroups : Groups size chars groups) :
    groups.length = (chars.length + size - 1) / size := by
  induction hgroups with
  | @last group hsome hfits =>
    have hpos := List.length_pos_iff.2 hsome
    rw [List.length_singleton, show group.length + size - 1 = group.length - 1 + size by omega,
      Nat.add_div_right _ hsize, Nat.div_eq_of_lt (by omega)]
  | @next group rest groups hfull hrest ih =>
    have hpos := List.length_pos_iff.2 hrest.chars_ne_nil
    rw [List.length_cons, ih, List.length_append, hfull,
      show size + rest.length + size - 1 = rest.length + size - 1 + size by omega,
      Nat.add_div_right _ hsize]

/-- All groups but the last one are full. -/
theorem full (hgroups : Groups size chars groups) :
    ∀ group ∈ groups.dropLast, group.length = size := by
  induction hgroups with
  | last => simp
  | next hfull hrest ih =>
    rw [List.dropLast_cons_of_ne_nil hrest.ne_nil]
    exact List.forall_mem_cons.2 ⟨hfull, ih⟩

/-- The last group has at least one character, and no more than fit. -/
theorem last_bounds (hgroups : Groups size chars groups) :
    ∃ group, groups.getLast? = some group ∧ 1 ≤ group.length ∧ group.length ≤ size := by
  induction hgroups with
  | last hsome hfits => exact ⟨_, rfl, List.length_pos_iff.2 hsome, hfits⟩
  | next hfull hrest ih =>
    obtain ⟨group, hlast, hbounds⟩ := ih
    exact ⟨group, by rw [List.getLast?_cons_of_ne_nil hrest.ne_nil, hlast], hbounds⟩

theorem mem_ne_nil (hsize : 0 < size) (hgroups : Groups size chars groups) :
    ∀ group ∈ groups, group ≠ [] := by
  induction hgroups with
  | last hsome => exact List.forall_mem_singleton.2 hsome
  | next hfull _ ih =>
    exact List.forall_mem_cons.2 ⟨List.length_pos_iff.1 (hfull ▸ hsize), ih⟩

/-- What is written is the groups with a separator between each of them and the next. -/
theorem separated_eq (hsize : 0 < size) (hgroups : Groups size chars groups) :
    separated size size chars = [groupSeparator].intercalate groups := by
  induction hgroups with
  | last _ hfits => rw [List.intercalate_singleton, separated_of_length_le hfits]
  | @next group rest groups hfull hrest ih =>
    have happend : separated size size (group ++ rest) = group ++ separated size 0 rest := by
      rw [← separated_append, hfull]
    rw [List.intercalate_cons_of_ne_nil hrest.ne_nil, ← ih, happend,
      separated_zero hsize hrest.chars_ne_nil, List.append_assoc, List.singleton_append]

/-- Splitting what is written at its separators finds the groups. -/
theorem splitOn_separated (hsize : 0 < size) (hgroups : Groups size chars groups)
    (hchars : groupSeparator ∉ chars) :
    (separated size size chars).splitOn groupSeparator = groups := by
  rw [hgroups.separated_eq hsize]
  refine List.splitOn_intercalate groupSeparator (fun group hgroup hmem ↦ hchars ?_) hgroups.ne_nil
  rw [← hgroups.flatten_eq]
  exact List.mem_flatten.2 ⟨group, hgroup, hmem⟩

end Groups

/-- Without the separators, the characters are as before. -/
theorem filter_separated (size room : Nat) {chars : List Char} (hchars : groupSeparator ∉ chars) :
    (separated size room chars).filter (· != groupSeparator) = chars := by
  fun_induction separated size room chars with
  | case1 => rfl
  | case2 c rest ih =>
    obtain ⟨hc, hrest⟩ := not_or.1 (mt List.mem_cons.2 hchars)
    rw [List.filter_cons_of_neg (by simp), List.filter_cons_of_pos (by simpa using Ne.symm hc),
      ih hrest]
  | case3 room c rest ih =>
    obtain ⟨hc, hrest⟩ := not_or.1 (mt List.mem_cons.2 hchars)
    rw [List.filter_cons_of_pos (by simpa using Ne.symm hc), ih hrest]

theorem filter_grouped (size : Nat) (hchars : groupSeparator ∉ chars) :
    (grouped size chars).filter (· != groupSeparator) = chars := by
  unfold grouped
  split
  · refine List.filter_eq_self.2 fun c hc ↦ bne_iff_ne.2 ?_
    rintro rfl
    exact hchars hc
  · exact filter_separated size size hchars

/-! ### Stray separators -/

/-- No separator stands at an end of a text or beside another separator. -/
structure NoStraySeparator (text : List Char) : Prop where
  leading (rest : List Char) : text ≠ groupSeparator :: rest
  trailing (rest : List Char) : text ≠ rest ++ [groupSeparator]
  doubled (before after : List Char) : text ≠ before ++ groupSeparator :: groupSeparator :: after

/-- A stray separator leaves an empty group behind. -/
theorem noStraySeparator_of_splitOn {text : List Char}
    (hgroups : ∀ group ∈ text.splitOn groupSeparator, group ≠ []) : NoStraySeparator text where
  leading rest := by
    rintro rfl
    refine hgroups [] ?_ rfl
    rw [← List.nil_append (groupSeparator :: rest), List.splitOn_append_cons_self]
    simp
  trailing rest := by
    rintro rfl
    refine hgroups [] ?_ rfl
    rw [List.splitOn_append_cons_self]
    simp
  doubled before after := by
    rintro rfl
    refine hgroups [] ?_ rfl
    rw [List.splitOn_append_cons_self, ← List.nil_append (groupSeparator :: after),
      List.splitOn_append_cons_self]
    simp

theorem noStraySeparator_of_not_mem {text : List Char} (htext : groupSeparator ∉ text) :
    NoStraySeparator text where
  leading rest := by
    rintro rfl
    simp at htext
  trailing rest := by
    rintro rfl
    simp at htext
  doubled before after := by
    rintro rfl
    simp at htext

theorem noStraySeparator_grouped (hchars : groupSeparator ∉ chars) (size : Nat) :
    NoStraySeparator (grouped size chars) := by
  rcases Nat.eq_zero_or_pos size with rfl | hsize
  · exact noStraySeparator_of_not_mem hchars
  · rw [grouped, if_neg (Nat.ne_of_gt hsize)]
    by_cases hsome : chars = []
    · rw [hsome]
      exact noStraySeparator_of_not_mem List.not_mem_nil
    · obtain ⟨groups, hgroups⟩ := exists_groups hsize hsome
      refine noStraySeparator_of_splitOn ?_
      rw [hgroups.splitOn_separated hsize hchars]
      exact hgroups.mem_ne_nil hsize

/-! ### The main statement -/

/-- What a custom token looks like. -/
structure Shaped (letters : List Char) (raw : List UInt8) (grouping : Nat) (text : String) :
    Prop where
  /-- Without separators there is one character for every four bytes. -/
  length_characters : (text.toList.filter (· != groupSeparator)).length =
    raw.length / bytesPerCharacter
  /-- Each of them is the letter that its bytes select, and there always is one. -/
  character (index : Nat) (hindex : index < raw.length / bytesPerCharacter) :
    ∃ hposition : positionOf letters.length raw index < letters.length,
      (text.toList.filter (· != groupSeparator))[index]? =
        some (letters[positionOf letters.length raw index])
  ungrouped (hgrouping : grouping = 0) : groupSeparator ∉ text.toList
  /-- Splitting the text at separators yields as many groups as it takes, all of them full but the
  last one, which has at least one character. -/
  groups (hgrouping : 0 < grouping) (hsome : 0 < raw.length / bytesPerCharacter) :
    (text.toList.splitOn groupSeparator).length =
      (raw.length / bytesPerCharacter + grouping - 1) / grouping ∧
    (∀ group ∈ (text.toList.splitOn groupSeparator).dropLast, group.length = grouping) ∧
    ∃ last, (text.toList.splitOn groupSeparator).getLast? = some last ∧
      1 ≤ last.length ∧ last.length ≤ grouping
  noStraySeparator : NoStraySeparator text.toList
  length_text : text.length =
    Format.custom.encodedLength (raw.length / bytesPerCharacter) grouping

theorem shaped_custom (alphabet : Alphabet) (raw : List UInt8) (grouping : Nat) :
    Shaped alphabet.chars raw grouping (custom raw alphabet grouping) := by
  have hletters := separator_not_mem_customCharacters alphabet raw
  have hlength := length_customCharacters alphabet raw
  have htext : (custom raw alphabet grouping).toList =
      grouped grouping (customCharacters alphabet raw) := String.toList_ofList
  have hfilter := filter_grouped grouping hletters
  constructor
  · rw [htext, hfilter, hlength]
  · intro index hindex
    obtain ⟨hposition, hcharacter⟩ := getElem?_customCharacters alphabet raw hindex
    refine ⟨hposition, ?_⟩
    rw [htext, hfilter, hcharacter]
    exact List.getElem?_eq_getElem hposition
  · rintro rfl
    rw [htext]
    exact hletters
  · intro hgrouping hsome
    have hchars : customCharacters alphabet raw ≠ [] := List.length_pos_iff.1 (hlength ▸ hsome)
    obtain ⟨groups, hgroups⟩ := exists_groups hgrouping hchars
    rw [htext, grouped, if_neg (Nat.ne_of_gt hgrouping),
      hgroups.splitOn_separated hgrouping hletters, ← hlength]
    exact ⟨hgroups.length_eq hgrouping, hgroups.full, hgroups.last_bounds⟩
  · rw [htext]
    exact noStraySeparator_grouped hletters grouping
  · rw [← String.length_toList, htext, length_grouped, hlength]
    rfl

/-- A token in an alphabet that was read from a text has one letter of the text for every four
bytes, in groups of the configured size. Up to three bytes at the end of the random bytes make no
difference. -/
theorem custom_has_shape {letters : String} {alphabet : Alphabet}
    (hread : Alphabet.ofString letters = .ok alphabet) (raw : List UInt8) (grouping : Nat) :
    Shaped letters.toList raw grouping (custom raw alphabet grouping) ∧
      ∀ extra : List UInt8, raw.length % bytesPerCharacter = 0 → extra.length ≤ 3 →
        custom (raw ++ extra) alphabet grouping = custom raw alphabet grouping := by
  constructor
  · rw [← Alphabet.chars_of_ofString hread]
    exact shaped_custom alphabet raw grouping
  · intro extra hwhole hextra
    have hwords : (raw ++ extra).length / bytesPerCharacter * bytesPerCharacter = raw.length := by
      rw [List.length_append]
      simp only [bytesPerCharacter] at hwhole ⊢
      omega
    have htake := wordsOf_take (raw ++ extra)
    rw [hwords, List.take_left] at htake
    rw [custom, customCharacters, ← htake, custom, customCharacters]

/-- Five letters in groups of two, of twenty bytes and three more. -/
theorem custom_has_shape_greek :
    let raw : List UInt8 :=
      [0, 0, 0, 0, 64, 0, 0, 0, 128, 0, 0, 0, 192, 0, 0, 0, 255, 255, 255, 255]
    ∃ alphabet, Alphabet.ofString "αβγδε" = .ok alphabet ∧
      Shaped "αβγδε".toList raw 2 (custom raw alphabet 2) ∧
        custom (raw ++ [1, 2, 3]) alphabet 2 = custom raw alphabet 2 ∧
          custom raw alphabet 2 = "αβ-γδ-ε" := by
  intro raw
  obtain ⟨alphabet, hread⟩ : ∃ alphabet, Alphabet.ofString "αβγδε" = .ok alphabet := ⟨_, rfl⟩
  obtain ⟨hshaped, htrailing⟩ := custom_has_shape hread raw 2
  refine ⟨alphabet, hread, hshaped, htrailing [1, 2, 3] (by decide) (by decide), ?_⟩
  obtain rfl := Except.ok.inj hread
  decide +kernel

end TokenMint.Encoding
