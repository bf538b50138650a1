import TokenMint.Proofs.Regex.Reading
import TokenMint.Proofs.Scope.Nesting

/-!
# What covered paths begin with

The literal lead of an expression is read off its text: the letters before the first special
character, less the last one if the special character makes it optional. The depth of the pattern
counts the segments of the lead.

If the expression is bound to the start of the path, every path in which it matches begins with the
lead and has as many segments (`Pattern.begins_with_lead`), as long as two things do not come
between: another alternative, which a bar outside of groups begins, and a second repetition behind
the last letter, after one that keeps it. The text of the lead says nothing about either, so a path
can be covered and lack the lead (`Pattern.alternative_lacks_lead`).
-/

set_option autoImplicit false
set_option relaxedAutoImplicit false

namespace TokenMint.Pattern

open Regex

/-- The letters before the first special character, the anchor at the start aside. -/
def letters (source : List Char) : List Char :=
  (unanchored source).takeWhile fun c ↦ !special.contains c

/-- The text of an expression from the first special character on. -/
def behindLetters (source : List Char) : List Char :=
  (unanchored source).dropWhile fun c ↦ !special.contains c

/-- Whether the special character behind the letters makes the last of them optional. -/
def LastIsOptional (source : List Char) : Prop :=
  ∃ mark ∈ (behindLetters source).head?, mark ∈ optionalMarks

instance (source : List Char) : Decidable (LastIsOptional source) :=
  -- The one character is tried, and not all characters there are.
  decidable_of_iff ((behindLetters source).head?.any optionalMarks.contains = true)
    (by simp [LastIsOptional, Option.any_eq_true])

/-- Whether the last of the letters is accounted for: the lead is read without it, or every
repetition behind it asks for at least one copy. -/
def KeepsLast (properties : Properties) (source : List Char) : Prop :=
  LastIsOptional source ∨
    Reader.demandsCopy properties (behindLetters source).length (behindLetters source) = true

instance (properties : Properties) (source : List Char) :
    Decidable (KeepsLast properties source) :=
  inferInstanceAs (Decidable (_ ∨ _))

theorem letters_append_behindLetters (source : List Char) :
    letters source ++ behindLetters source = unanchored source :=
  List.takeWhile_append_dropWhile

theorem not_mem_special_of_mem_letters {source : List Char} {c : Char}
    (hc : c ∈ letters source) : c ∉ special := by
  simpa using List.all_eq_true.1 List.all_takeWhile c hc

/-- The lead consists of the letters, without the last one if it is optional. -/
theorem leadOfExpression_eq (source : List Char) :
    leadOfExpression source =
      if LastIsOptional source then (letters source).dropLast else letters source := by
  have hmark : (unanchored source)[(letters source).length]? = (behindLetters source).head? := by
    rw [← letters_append_behindLetters, List.getElem?_append_right (Nat.le_refl _), Nat.sub_self,
      List.head?_eq_getElem?]
  simp only [leadOfExpression]
  split
  next mark hget =>
    have hhead : (behindLetters source).head? = some mark := hmark.symm.trans hget
    have hoptional : optionalMarks.contains mark = true ↔ LastIsOptional source := by
      simp [LastIsOptional, hhead]
    exact if_congr hoptional rfl rfl
  next hget =>
    have hhead : (behindLetters source).head? = none := hmark.symm.trans hget
    exact (if_neg (by simp [LastIsOptional, hhead])).symm

/-- A search for an expression without a bar that is bound to the start of the text finds something
only if the text begins with the lead. -/
theorem prefix_of_found {properties : Properties} {body path : List Char}
    {expression : Regex.Expression}
    (hread : Regex.ofText properties ('^' :: body) = .ok expression)
    (hsingle : isSingle properties ('^' :: body) = true)
    (hkeeps : KeepsLast properties ('^' :: body))
    (hfound : found expression path = true) : leadOfExpression ('^' :: body) <+: path := by
  obtain ⟨final, hfinal, halternatives, places, hleft⟩ :=
    runAll_ne_zero_of_found hread hsingle hfound
  have hbody : letters ('^' :: body) ++ behindLetters ('^' :: body) = body :=
    letters_append_behindLetters _
  have hplain : ∀ c ∈ letters ('^' :: body), c ∉ special := fun c ↦ not_mem_special_of_mem_letters
  rw [leadOfExpression_eq]
  rcases List.eq_nil_or_concat (letters ('^' :: body)) with hnone | ⟨front, last, hletters⟩
  · simp [hnone]
  · rw [List.concat_eq_append] at hletters
    rw [hletters] at hbody hplain ⊢
    rw [← hbody, Reader.read_anchored hplain] at hfinal
    by_cases hoptional : LastIsOptional ('^' :: body)
    · -- Whatever becomes of the last letter, those before it stay.
      rw [if_pos hoptional, List.dropLast_concat]
      obtain ⟨newer, hparts, -⟩ :=
        (Reader.keeps_afterLetters front last).read hfinal halternatives
      rw [hparts, List.reverse_append, List.map_append, Reader.reverse_startParts,
        runAll_append] at hleft
      obtain ⟨rest, rfl, -⟩ := exists_eq_append_of_anchored front (ne_zero_of_runAll hleft)
      exact List.prefix_append front rest
    · -- What becomes of the last letter requires it, where the letters before it have led.
      rw [if_neg hoptional]
      obtain ⟨newer, made, hparts, hrequires⟩ := Reader.exists_of_demandsCopy
        (requires_letter last) rfl (Reader.startParts_concat front last)
        (hkeeps.resolve_left hoptional) hfinal halternatives
      rw [hparts, List.reverse_append, List.reverse_cons, List.append_assoc, List.map_append,
        Reader.reverse_startParts, runAll_append] at hleft
      obtain ⟨rest, hpath, hrest⟩ :=
        exists_eq_append_of_anchored front (ne_zero_of_runAll hleft)
      rw [List.singleton_append, List.map_cons, runAll_cons] at hleft
      obtain ⟨rest', rfl⟩ := hrequires.exists_eq_cons (hpath ▸ List.suffix_append front rest)
        hrest (ne_zero_of_runAll hleft)
      exact ⟨rest', by simp [hpath]⟩

/-- Every path in which an expression matches begins with the lead of the expression, and has at
least as many segments as the depth counts, if the expression is bound to the start of the path,
has no bar outside of groups, and its letters are kept. This is so by whatever tables of properties
the expression is read. -/
theorem begins_with_lead {properties : Properties} {source : String} {regex : Regex}
    (hread : Regex.read properties source = .ok regex)
    (hanchored : source.toList.head? = some '^')
    (hsingle : isSingle properties source.toList = true)
    (hkeeps : KeepsLast properties source.toList) {path : String}
    (hmatches : (expression regex).matches? path = true) :
    (expression regex).lead <+: path.toList ∧
      (expression regex).depth ≤ Text.filled (· == slash) path.toList := by
  obtain ⟨read, hexpression, rfl⟩ : ∃ read, Regex.ofText properties source.toList = .ok read ∧
      regex = ⟨source, read⟩ := by
    cases hexpression : Regex.ofText properties source.toList with
    | error fault => simp [Regex.read, hexpression, bind, Except.bind] at hread
    | ok read =>
      refine ⟨read, rfl, ?_⟩
      simpa [Regex.read, hexpression, bind, Except.bind, pure, Except.pure, eq_comm] using hread
  have hlead : leadOfExpression source.toList <+: path.toList := by
    cases hsource : source.toList with
    | nil => simp [hsource] at hanchored
    | cons first body =>
      obtain rfl : first = '^' := by simpa [hsource] using hanchored
      rw [hsource] at hexpression hsingle hkeeps
      exact prefix_of_found hexpression hsingle hkeeps hmatches
  refine ⟨hlead, ?_⟩
  obtain ⟨more, hmore⟩ := hlead
  rw [← hmore]
  exact Text.filled_le_append _ _ more

/-- The regular expression of a text, from what there is to say about it and a path. -/
theorem exists_of_facts {source path : String} {lead : List Char} {depth : Nat}
    (hfacts : (Regex.ofString source).toOption.map (fun regex ↦
      ((expression regex).matches? path, (expression regex).lead, (expression regex).depth)) =
        some (true, lead, depth)) :
    ∃ regex, Regex.ofString source = .ok regex ∧ (expression regex).matches? path = true ∧
      (expression regex).lead = lead ∧ (expression regex).depth = depth := by
  cases hread : Regex.ofString source with
  | error fault => simp [hread, Except.toOption] at hfacts
  | ok regex =>
    simp only [hread, Except.toOption, Option.map_some, Option.some.injEq, Prod.mk.injEq] at hfacts
    exact ⟨regex, rfl, hfacts⟩

/-- The last letter may be repeated, and groups may hold bars and properties. -/
theorem begins_with_lead_items :
    ∃ regex, Regex.ofString "^/shop/items+(a|/\\p\x7bLt\x7d)*$" = .ok regex ∧
      (expression regex).matches? "/shop/itemsss/ᾈa" = true ∧
      (expression regex).lead = "/shop/items".toList ∧ (expression regex).depth = 2 ∧
      (expression regex).lead <+: "/shop/itemsss/ᾈa".toList ∧
      (expression regex).depth ≤ Text.filled (· == slash) "/shop/itemsss/ᾈa".toList := by
  have hfacts : (Regex.ofString "^/shop/items+(a|/\\p\x7bLt\x7d)*$").toOption.map (fun regex ↦
      ((expression regex).matches? "/shop/itemsss/ᾈa", (expression regex).lead,
        (expression regex).depth)) = some (true, "/shop/items".toList, 2) := by decide +kernel
  obtain ⟨regex, hread, hmatches, hlead, hdepth⟩ := exists_of_facts hfacts
  exact ⟨regex, hread, hmatches, hlead, hdepth,
    begins_with_lead hread rfl (by decide +kernel) (by decide +kernel) hmatches⟩

/-- A path that the second alternative covers neither begins with the lead of the first one nor has
as many segments. -/
theorem alternative_lacks_lead :
    ∃ regex, Regex.ofString "^/app/x|/b" = .ok regex ∧
      (expression regex).matches? "/b" = true ∧ ¬(expression regex).lead <+: "/b".toList ∧
      ¬(expression regex).depth ≤ Text.filled (· == slash) "/b".toList := by
  have hfacts : (Regex.ofString "^/app/x|/b").toOption.map (fun regex ↦
      ((expression regex).matches? "/b", (expression regex).lead, (expression regex).depth)) =
        some (true, "/app/x".toList, 2) := by decide +kernel
  obtain ⟨regex, hread, hmatches, hlead, hdepth⟩ := exists_of_facts hfacts
  exact ⟨regex, hread, hmatches, hlead ▸ by decide, hdepth ▸ by decide⟩

/-- A second repetition, behind one that keeps the last letter, takes the letter away. -/
example : (Regex.ofString "^/a+*").toOption.map (fun regex ↦
    ((expression regex).matches? "/", (expression regex).lead)) = some (true, "/a".toList) := by
  decide +kernel

end TokenMint.Pattern
