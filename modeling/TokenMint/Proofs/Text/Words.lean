import TokenMint.Text.Numeral

/-!
# Words and numbers are read as they are written

A text that is made of words with blanks between them is taken apart into these words again, however
many blanks there are and whichever they are (`words_of_spaces`). Everything about words follows
from `words_append_blank`, which cuts a text at a blank. In turn, every text that is not all blank
is made of its words in this way (`spaces_words`).

The decimal digits of a number are read as that number (`Numeral.readTrimmed?_repr`). Blanks survive
a change of letter case, so a text holds none if it holds none in small letters
(`isUnbroken_of_lowercase`), and a text without blanks is not changed by trimming (`trim_eq_self`).
-/

set_option autoImplicit false
set_option relaxedAutoImplicit false

namespace TokenMint.Text

/-! ### Pieces -/

theorem extendFirst_append (c : Char) {pieces : List (List Char)} (hpieces : pieces ≠ [])
    (more : List (List Char)) :
    extendFirst c (pieces ++ more) = extendFirst c pieces ++ more := by
  cases pieces with
  | nil => exact absurd rfl hpieces
  | cons piece pieces => rfl

/-- The pieces of a text are those before a cut and those behind it. -/
theorem segments_append_cut {cut : Char → Bool} {c : Char} (hc : cut c = true)
    (front back : List Char) :
    segments cut (front ++ c :: back) = segments cut front ++ segments cut back := by
  induction front with
  | nil => simp [segments, hc]
  | cons first front ih =>
    simp only [List.cons_append, segments, ih]
    split
    · rfl
    · exact extendFirst_append first (segments_ne_nil cut front) (segments cut back)

theorem segments_eq_singleton {cut : Char → Bool} {text : List Char}
    (htext : ∀ c ∈ text, cut c = false) : segments cut text = [text] := by
  induction text with
  | nil => rfl
  | cons first rest ih =>
    have hrest := ih fun c hc ↦ htext c (List.mem_cons_of_mem _ hc)
    simp [segments, htext first List.mem_cons_self, hrest, extendFirst]

/-! ### Words -/

/-- Whether a text consists of blanks. -/
def IsBlankText (text : List Char) : Prop :=
  ∀ c ∈ text, isBlank c = true

/-- Whether a text holds no blank. -/
def IsUnbroken (text : List Char) : Prop :=
  ∀ c ∈ text, isBlank c = false

-- The characters of the text are tried, and not all characters there are.
instance (text : List Char) : Decidable (IsBlankText text) :=
  List.decidableBAll _ text

instance (text : List Char) : Decidable (IsUnbroken text) :=
  List.decidableBAll _ text

theorem IsUnbroken.append {front back : List Char} (hfront : IsUnbroken front)
    (hback : IsUnbroken back) : IsUnbroken (front ++ back) :=
  fun c hc ↦ (List.mem_append.1 hc).elim (hfront c) (hback c)

/-- Words are cut at a blank. -/
theorem words_append_blank {c : Char} (hc : isBlank c = true) (front back : List Char) :
    words (front ++ c :: back) = words front ++ words back := by
  rw [words, segments_append_cut hc, List.filter_append, words, words]

theorem words_eq_singleton {word : List Char} (hne : word ≠ []) (hword : IsUnbroken word) :
    words word = [word] := by
  simp [words, segments_eq_singleton hword, hne]

/-- Blanks in front of a text do not show in its words. -/
theorem words_blanks_append {blanks : List Char} (hblanks : IsBlankText blanks)
    (text : List Char) : words (blanks ++ text) = words text := by
  induction blanks with
  | nil => rfl
  | cons c rest ih =>
    rw [List.cons_append, ← List.nil_append (c :: (rest ++ text)),
      words_append_blank (hblanks c List.mem_cons_self),
      ih fun other hother ↦ hblanks other (List.mem_cons_of_mem _ hother)]
    rfl

theorem words_eq_nil {text : List Char} (htext : IsBlankText text) : words text = [] := by
  rw [← List.append_nil text, words_blanks_append htext]
  rfl

/-- Blanks behind a text do not show in its words. -/
theorem words_append_blanks {blanks : List Char} (hblanks : IsBlankText blanks)
    (text : List Char) : words (text ++ blanks) = words text := by
  cases blanks with
  | nil => rw [List.append_nil]
  | cons c rest =>
    rw [words_append_blank (hblanks c List.mem_cons_self),
      words_eq_nil fun other hother ↦ hblanks other (List.mem_cons_of_mem _ hother),
      List.append_nil]

/-- Whether a text is made of these words, with at least one blank between any two of them and any
number of blanks at its two ends. -/
inductive Spaces : List (List Char) → List Char → Prop
  | last (before word after : List Char) (hbefore : IsBlankText before)
      (hafter : IsBlankText after) : Spaces [word] (before ++ word ++ after)
  /-- Further blanks behind the one that ends the word stand at the start of the rest. -/
  | more (before word : List Char) (blank : Char) {rest : List (List Char)} {text : List Char}
      (hbefore : IsBlankText before) (hblank : isBlank blank = true) (hrest : Spaces rest text) :
      Spaces (word :: rest) (before ++ word ++ blank :: text)

theorem words_cons_of_blank {before word : List Char} {blank : Char} (hbefore : IsBlankText before)
    (hne : word ≠ []) (hword : IsUnbroken word) (hblank : isBlank blank = true)
    (rest : List Char) : words (before ++ word ++ blank :: rest) = word :: words rest := by
  rw [words_append_blank hblank, words_blanks_append hbefore, words_eq_singleton hne hword]
  rfl

/-- A text is taken apart into the words that it is made of. -/
theorem words_of_spaces {pieces : List (List Char)} {text : List Char}
    (hspaces : Spaces pieces text) (hpieces : ∀ piece ∈ pieces, piece ≠ [] ∧ IsUnbroken piece) :
    words text = pieces := by
  induction hspaces with
  | last before word after hbefore hafter =>
    obtain ⟨hne, hword⟩ := hpieces word List.mem_cons_self
    rw [words_append_blanks hafter, words_blanks_append hbefore, words_eq_singleton hne hword]
  | more before word blank hbefore hblank _ ih =>
    obtain ⟨hne, hword⟩ := hpieces word List.mem_cons_self
    rw [words_cons_of_blank hbefore hne hword hblank,
      ih fun piece hpiece ↦ hpieces piece (List.mem_cons_of_mem _ hpiece)]

/-- A text starts with a longest part whose characters pass a test. -/
theorem exists_longest_start (test : Char → Bool) (text : List Char) :
    ∃ start rest, text = start ++ rest ∧ (∀ c ∈ start, test c = true) ∧
      ∀ c ∈ rest.head?, test c = false := by
  induction text with
  | nil => exact ⟨[], [], rfl, nofun, nofun⟩
  | cons first text ih =>
    by_cases hfirst : test first = true
    · obtain ⟨start, rest, rfl, hstart, hrest⟩ := ih
      exact ⟨first :: start, rest, rfl, List.forall_mem_cons.2 ⟨hfirst, hstart⟩, hrest⟩
    · exact ⟨[], first :: text, rfl, nofun, fun c hc ↦ by simp_all⟩

/-- A text that is not all blank has a first word, which lasts up to the next blank. -/
theorem exists_first_word {text : List Char} (htext : ¬IsBlankText text) :
    ∃ before word after, text = before ++ word ++ after ∧ IsBlankText before ∧
      word ≠ [] ∧ IsUnbroken word ∧ ∀ c ∈ after.head?, isBlank c = true := by
  obtain ⟨before, later, rfl, hbefore, hlater⟩ := exists_longest_start isBlank text
  obtain ⟨word, after, rfl, hword, hafter⟩ := exists_longest_start (fun c ↦ !isBlank c) later
  refine ⟨before, word, after, (List.append_assoc before word after).symm, hbefore, ?_,
    fun c hc ↦ by simpa using hword c hc, fun c hc ↦ by simpa using hafter c hc⟩
  rintro rfl
  -- What follows the blanks would start with a blank and with none.
  cases after with
  | nil => exact htext (by rwa [List.nil_append, List.append_nil])
  | cons c rest => exact absurd (hafter c rfl) (by simp [hlater c rfl])

/-- A text that is not all blank is made of its words. -/
theorem spaces_words {text : List Char} (htext : ¬IsBlankText text) : Spaces (words text) text := by
  obtain ⟨before, word, after, hsplit, hbefore, hne, hword, hafter⟩ := exists_first_word htext
  cases after with
  | nil =>
    have hlast : Spaces [word] (before ++ word ++ []) := .last before word [] hbefore nofun
    rw [List.append_nil] at hsplit hlast
    rwa [hsplit, words_blanks_append hbefore, words_eq_singleton hne hword]
  | cons blank rest =>
    have hblank := hafter blank rfl
    rw [hsplit, words_cons_of_blank hbefore hne hword hblank]
    by_cases hrest : IsBlankText rest
    · rw [words_eq_nil hrest]
      exact .last before word (blank :: rest) hbefore (List.forall_mem_cons.2 ⟨hblank, hrest⟩)
    · exact .more before word blank hbefore hblank (spaces_words hrest)
termination_by text.length
decreasing_by
  rw [hsplit, List.length_append, List.length_cons]
  omega

/-! ### Trimming -/

theorem trimStart_eq_self {text : List Char} (htext : IsUnbroken text) : trimStart text = text := by
  cases text with
  | nil => rfl
  | cons c rest =>
    rw [trimStart, List.dropWhile_cons_of_neg (by simp [htext c List.mem_cons_self])]

/-- A text without blanks is trimmed already. -/
theorem trim_eq_self {text : List Char} (htext : IsUnbroken text) : trim text = text := by
  have hreverse : IsUnbroken text.reverse := fun c hc ↦ htext c (List.mem_reverse.1 hc)
  rw [trim, trimStart_eq_self htext, trimStart_eq_self hreverse, List.reverse_reverse]

/-! ### Letter case -/

/-- A range of characters that meets none of the ranges of blanks holds no blank. -/
theorem isBlank_of_mem_range (low high : Nat)
    (hapart : ∀ range ∈ blankRanges, range.2 < low ∨ high < range.1) {c : Char}
    (hlow : low ≤ c.toNat) (hhigh : c.toNat ≤ high) : isBlank c = false := by
  rw [isBlank, List.any_eq_false]
  intro range hrange hbounds
  simp only [Bool.and_eq_true, decide_eq_true_eq] at hbounds
  have := hapart range hrange
  omega

theorem toLower_eq_of_isBlank {c : Char} (hc : isBlank c = true) : c.toLower = c := by
  have hcapital : ¬(c.val ≥ 'A'.val ∧ c.val ≤ 'Z'.val) := by
    rintro ⟨hlow, hhigh⟩
    have hnone : isBlank c = false :=
      isBlank_of_mem_range 'A'.toNat 'Z'.toNat (by decide) hlow hhigh
    exact Bool.noConfusion (hc.symm.trans hnone)
  exact dif_neg hcapital

/-- A character that small letters leave as it is stands in a text in small letters if it stands in
the text. -/
theorem mem_lowercase {c : Char} {text : String} (hlower : c.toLower = c) (hc : c ∈ text.toList) :
    c ∈ (lowercase text).toList := by
  rw [lowercase, String.toList_ofList]
  exact List.mem_map.2 ⟨c, hc, hlower⟩

/-- A text has no more blanks than the text in small letters. -/
theorem isUnbroken_of_lowercase {text : String} (htext : IsUnbroken (lowercase text).toList) :
    IsUnbroken text.toList := by
  intro c hc
  by_cases hblank : isBlank c = true
  · exact htext c (mem_lowercase (toLower_eq_of_isBlank hblank) hc)
  · simpa using hblank

/-! ### Numbers -/

theorem isDigit_of_mem_repr {n : Nat} {c : Char} (hc : c ∈ (Nat.repr n).toList) :
    c.isDigit = true := by
  rw [Nat.repr_eq_ofList_toDigits, String.toList_ofList] at hc
  exact Nat.isDigit_of_mem_toDigits (by decide) (by decide) hc

theorem isUnbroken_repr (n : Nat) : IsUnbroken (Nat.repr n).toList := by
  intro c hc
  have hdigit := isDigit_of_mem_repr hc
  simp only [Char.isDigit, Bool.and_eq_true, decide_eq_true_eq] at hdigit
  exact isBlank_of_mem_range '0'.toNat '9'.toNat (by decide) hdigit.1 hdigit.2

namespace Numeral

theorem value_repr (n : Nat) : value (Nat.repr n).toList = n := by
  rw [Nat.repr_eq_ofList_toDigits, String.toList_ofList]
  exact Nat.ofDigitChars_ten_toDigits

/-- Digits do not start with a sign. -/
theorem unsigned_eq_self {digits : List Char} (hdigits : ∀ c ∈ digits, c.isDigit = true) :
    unsigned digits = digits := by
  unfold unsigned
  split
  next rest => exact absurd (hdigits '+' List.mem_cons_self) (by decide)
  next => rfl

/-- A number that fits in 64 bits is read from its decimal digits. -/
theorem readTrimmed?_repr {n : Nat} (hn : n < bound) : readTrimmed? (Nat.repr n) = some n := by
  have hdigits : ∀ c ∈ (Nat.repr n).toList, c.isDigit = true := fun _ ↦ isDigit_of_mem_repr
  have hall : (Nat.repr n).toList.all Char.isDigit = true := List.all_eq_true.2 hdigits
  have hne : (Nat.repr n).toList.isEmpty = false := by
    simp
  rw [readTrimmed?, trim_eq_self (isUnbroken_repr n), read?, unsigned_eq_self hdigits, value_repr,
    hall, hne]
  simp [hn]

end Numeral

end TokenMint.Text
