/-!
# Cutting text into segments

A text is cut at every character that satisfies a test, and the pieces between the cuts are kept in
order, empty ones included. No piece holds a cutting character (`not_cut_of_mem_segments`).
`splitFirst` cuts at the first occurrence of one character only, and `append_splitFirst` puts the
text together again.
-/

set_option autoImplicit false
set_option relaxedAutoImplicit false

namespace TokenMint.Text

/-- Puts a character in front of the first piece. -/
def extendFirst (c : Char) : List (List Char) → List (List Char)
  | [] => [[c]]
  | piece :: pieces => (c :: piece) :: pieces

/-- The pieces of a text between the characters that satisfy `cut`. -/
def segments (cut : Char → Bool) : List Char → List (List Char)
  | [] => [[]]
  | c :: rest => if cut c then [] :: segments cut rest else extendFirst c (segments cut rest)

/-- The text before and after the first occurrence of `mark`, if there is one. -/
def splitFirst (mark : Char) : List Char → Option (List Char × List Char)
  | [] => none
  | c :: rest =>
    if c = mark then some ([], rest)
    else (splitFirst mark rest).map fun parts ↦ (c :: parts.1, parts.2)

/-! ### The pieces -/

theorem segments_ne_nil (cut : Char → Bool) (text : List Char) : segments cut text ≠ [] := by
  cases text with
  | nil => simp [segments]
  | cons c rest =>
    simp only [segments]
    split
    · simp
    · cases segments cut rest <;> simp [extendFirst]

theorem mem_extendFirst {c : Char} {piece : List Char} {pieces : List (List Char)}
    (hmem : piece ∈ extendFirst c pieces) :
    (∃ front, piece = c :: front ∧ (front ∈ pieces ∨ front = [])) ∨ piece ∈ pieces := by
  cases pieces with
  | nil => simp_all [extendFirst]
  | cons front pieces =>
    rcases List.mem_cons.1 hmem with rfl | hrest
    · exact .inl ⟨front, rfl, .inl List.mem_cons_self⟩
    · exact .inr (List.mem_cons_of_mem _ hrest)

/-- No piece holds a cutting character. -/
theorem not_cut_of_mem_segments {cut : Char → Bool} {text piece : List Char}
    (hpiece : piece ∈ segments cut text) : ∀ c ∈ piece, cut c = false := by
  induction text generalizing piece with
  | nil => simp_all [segments]
  | cons first rest ih =>
    simp only [segments] at hpiece
    split at hpiece
    · rcases List.mem_cons.1 hpiece with rfl | hrest
      · simp
      · exact ih hrest
    next hcut =>
      rcases mem_extendFirst hpiece with ⟨front, rfl, hfront | rfl⟩ | hrest
      · intro c hc
        rcases List.mem_cons.1 hc with rfl | hc
        · simpa using hcut
        · exact ih hfront c hc
      · simpa using hcut
      · exact ih hrest

/-! ### The first occurrence -/

/-- The two parts with the mark between them are the text, and the first part lacks the mark. -/
theorem append_splitFirst {mark : Char} {text before after : List Char}
    (hsplit : splitFirst mark text = some (before, after)) :
    text = before ++ mark :: after ∧ mark ∉ before := by
  induction text generalizing before with
  | nil => simp [splitFirst] at hsplit
  | cons c rest ih =>
    simp only [splitFirst] at hsplit
    split at hsplit
    next hmark =>
      obtain ⟨rfl, rfl⟩ := Prod.mk.inj (Option.some.inj hsplit)
      simp [hmark]
    next hmark =>
      obtain ⟨⟨front, back⟩, hrest, hparts⟩ := Option.map_eq_some_iff.1 hsplit
      obtain ⟨rfl, rfl⟩ := Prod.mk.inj hparts
      obtain ⟨htext, hfront⟩ := ih hrest
      exact ⟨by simp [htext], by simp [hfront, Ne.symm hmark]⟩

/-- A text is split at the mark that follows a part without it. -/
theorem splitFirst_append {mark : Char} {before : List Char} (after : List Char)
    (hbefore : mark ∉ before) :
    splitFirst mark (before ++ mark :: after) = some (before, after) := by
  induction before with
  | nil => simp [splitFirst]
  | cons c before ih =>
    have hc : ¬c = mark := fun h ↦ hbefore (h ▸ List.mem_cons_self)
    simp [splitFirst, hc, ih fun h ↦ hbefore (List.mem_cons_of_mem _ h)]

end TokenMint.Text
