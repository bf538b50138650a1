import TokenMint.Text.Segment

/-!
# White space, words and letter case

`isBlank` is membership in the Unicode property `White_Space`, given by its ranges of code points.
`trim` removes blanks from both ends, `words` are the non-empty pieces between blanks, and no word
holds a blank (`isBlank_of_mem_words`). `lowercase` changes the ASCII letters `A` to `Z` and nothing
else.
-/

set_option autoImplicit false
set_option relaxedAutoImplicit false

namespace TokenMint.Text

/-- The inclusive ranges of code points with the Unicode property `White_Space`. -/
def blankRanges : List (Nat × Nat) :=
  [(0x09, 0x0d), (0x20, 0x20), (0x85, 0x85), (0xa0, 0xa0), (0x1680, 0x1680), (0x2000, 0x200a),
    (0x2028, 0x2029), (0x202f, 0x202f), (0x205f, 0x205f), (0x3000, 0x3000)]

/-- Whether a character is white space. -/
def isBlank (c : Char) : Bool :=
  blankRanges.any fun range ↦ range.1 ≤ c.toNat && c.toNat ≤ range.2

/-- The text without the blanks at its start. -/
def trimStart (text : List Char) : List Char :=
  text.dropWhile isBlank

/-- The text without the blanks at its two ends. -/
def trim (text : List Char) : List Char :=
  (trimStart (trimStart text).reverse).reverse

/-- The non-empty pieces between blanks. -/
def words (text : List Char) : List (List Char) :=
  (segments isBlank text).filter fun word ↦ !word.isEmpty

/-- The text with its ASCII capital letters made small. -/
def lowercase (text : String) : String :=
  String.ofList (text.toList.map Char.toLower)

/-- A word is not empty and holds no blank. -/
theorem isBlank_of_mem_words {text word : List Char} (hword : word ∈ words text) :
    word ≠ [] ∧ ∀ c ∈ word, isBlank c = false := by
  obtain ⟨hmem, hne⟩ := List.mem_filter.1 hword
  exact ⟨by simpa using hne, not_cut_of_mem_segments hmem⟩

end TokenMint.Text
