import TokenMint.Scope.Pattern

/-!
# Locations cover whole segments

A location covers the paths that continue it, as long as nothing is left of the path, the location
ends with a slash, or what is left begins with one (`Pattern.covers_iff`). Said of segments, the
pieces between slashes of which the empty ones count as well, the segments of the location come
first among those of the path. A location with a slash at its end has an empty segment last, in the
place of which the path may have any segments, but must have one. Both follow from one fact about
splitting: the pieces of a text come first among those of another if the two are the same, or the
other one goes on with a separator (`Text.splitOn_prefix_iff`). The main statement is
`Pattern.locations_cover_segments`.
-/

set_option autoImplicit false
set_option relaxedAutoImplicit false

namespace TokenMint

/-! ### Pieces that come first -/

namespace Text

theorem intercalate_append (mark : List Char) {pieces more : List (List Char)}
    (hpieces : pieces ≠ []) (hmore : more ≠ []) :
    mark.intercalate (pieces ++ more) =
      mark.intercalate pieces ++ mark ++ mark.intercalate more := by
  induction pieces with
  | nil => exact absurd rfl hpieces
  | cons piece pieces ih =>
    cases pieces with
    | nil =>
      rw [List.singleton_append, List.intercalate_cons_of_ne_nil hmore,
        List.intercalate_singleton]
    | cons next pieces =>
      rw [List.cons_append, List.intercalate_cons_of_ne_nil (by simp), ih (by simp),
        List.intercalate_cons_cons]
      simp only [List.append_assoc]

/-- The pieces of a text are the first pieces of another one if the other one is the same text or
continues it with a separator. -/
theorem splitOn_prefix_iff (mark : Char) (front text : List Char) :
    front.splitOn mark <+: text.splitOn mark ↔
      text = front ∨ ∃ rest, text = front ++ mark :: rest := by
  constructor
  · rintro ⟨more, hmore⟩
    -- Putting separators between the pieces gives both texts back.
    have htext : [mark].intercalate (front.splitOn mark ++ more) = text := by
      rw [hmore, List.intercalate_splitOn]
    by_cases hnone : more = []
    · rw [hnone, List.append_nil, List.intercalate_splitOn] at htext
      exact .inl htext.symm
    · rw [intercalate_append _ (List.splitOn_ne_nil mark front) hnone,
        List.intercalate_splitOn] at htext
      exact .inr ⟨[mark].intercalate more, by rw [← htext, List.append_assoc]; rfl⟩
  · rintro (rfl | ⟨rest, rfl⟩)
    · exact List.prefix_rfl
    · rw [List.splitOn_append_cons_self]
      exact List.prefix_append ..

end Text

/-! ### What a location covers -/

namespace Pattern

variable {place path : List Char}

theorem covers_iff : covers place path = true ↔
    ∃ rest, path = place ++ rest ∧
      (rest = [] ∨ place.getLast? = some slash ∨ rest.head? = some slash) := by
  have hends (rest : List Char) : (place.length == (place ++ rest).length ||
      place.getLast? == some slash || (place ++ rest)[place.length]? == some slash) = true ↔
        rest = [] ∨ place.getLast? = some slash ∨ rest.head? = some slash := by
    simp [List.getElem?_append_right, List.head?_eq_getElem?, or_assoc]
  rw [covers, Bool.and_eq_true, List.isPrefixOf_iff_prefix]
  constructor
  · rintro ⟨⟨rest, rfl⟩, hrest⟩
    exact ⟨rest, rfl, (hends rest).1 hrest⟩
  · rintro ⟨rest, rfl, hrest⟩
    exact ⟨List.prefix_append .., (hends rest).2 hrest⟩

theorem covers_refl (place : List Char) : covers place place = true :=
  covers_iff.2 ⟨[], (List.append_nil place).symm, .inl rfl⟩

theorem covers_trans {inner : List Char} (houter : covers place inner = true)
    (hinner : covers inner path = true) : covers place path = true := by
  obtain ⟨between, hbetween, hends⟩ := covers_iff.1 houter
  obtain ⟨rest, rfl, -⟩ := covers_iff.1 hinner
  have hpath : inner ++ rest = place ++ (between ++ rest) := by
    rw [hbetween, List.append_assoc]
  rcases hends with hnone | hclosed | hstarts
  · have hsame : inner = place := by rw [hbetween, hnone, List.append_nil]
    exact hsame ▸ hinner
  · exact covers_iff.2 ⟨between ++ rest, hpath, .inr (.inl hclosed)⟩
  · refine covers_iff.2 ⟨between ++ rest, hpath, .inr (.inr ?_)⟩
    rw [List.head?_append, hstarts, Option.some_or]

/-- A location without a slash at its end covers itself, and what continues it with a slash. -/
theorem covers_iff_of_open (hopen : place.getLast? ≠ some slash) :
    covers place path = true ↔ path = place ∨ ∃ rest, path = place ++ slash :: rest := by
  rw [covers_iff]
  constructor
  · rintro ⟨rest, rfl, hends⟩
    cases rest with
    | nil => exact .inl (List.append_nil place)
    | cons c rest =>
      obtain rfl : c = slash := by simpa [hopen] using hends
      exact .inr ⟨rest, rfl⟩
  · rintro (rfl | ⟨rest, rfl⟩)
    · exact ⟨[], (List.append_nil _).symm, .inl rfl⟩
    · exact ⟨slash :: rest, rfl, .inr (.inr rfl)⟩

/-- A location with a slash at its end covers what continues it. -/
theorem covers_append_slash_iff (front : List Char) :
    covers (front ++ [slash]) path = true ↔ ∃ rest, path = front ++ slash :: rest := by
  rw [covers_iff]
  constructor
  · rintro ⟨rest, rfl, -⟩
    exact ⟨rest, List.append_assoc ..⟩
  · rintro ⟨rest, rfl⟩
    exact ⟨rest, List.append_cons .., .inr (.inl List.getLast?_concat)⟩

/-! ### Segments -/

/-- The segments of a path, which are the pieces between its slashes, empty ones included. -/
def segmentsOf (path : String) : List (List Char) :=
  path.toList.splitOn slash

/-- The segments before the last slash come first among those of a path, and are not all of them,
if the path continues the text with the slash. -/
theorem dropLast_splitOn_prefix_iff (front : List Char) :
    ((front ++ [slash]).splitOn slash).dropLast <+: path.splitOn slash ∧
        ((front ++ [slash]).splitOn slash).dropLast ≠ path.splitOn slash ↔
      ∃ rest, path = front ++ slash :: rest := by
  have hfront : ((front ++ [slash]).splitOn slash).dropLast = front.splitOn slash := by
    rw [List.splitOn_append_cons_self, List.splitOn_nil, List.dropLast_concat]
  rw [hfront, Text.splitOn_prefix_iff]
  constructor
  · rintro ⟨rfl | hrest, hne⟩
    · exact absurd rfl hne
    · exact hrest
  · rintro ⟨rest, rfl⟩
    refine ⟨.inr ⟨rest, rfl⟩, ?_⟩
    rw [List.splitOn_append_cons_self]
    exact fun hsame ↦ List.splitOn_ne_nil slash rest (List.self_eq_append_right.1 hsame)

/-- A location that does not end with a slash covers the paths among whose segments its own come
first, and one that ends with a slash covers those among whose segments its own without the last
come first and are not all. A location covers itself, and whatever is covered by a location that it
covers. -/
theorem locations_cover_segments (outer path : String) :
    (outer.toList.getLast? ≠ some slash →
      ((location outer).matches? path = true ↔ segmentsOf outer <+: segmentsOf path)) ∧
    (outer.toList.getLast? = some slash →
      ((location outer).matches? path = true ↔
        (segmentsOf outer).dropLast <+: segmentsOf path ∧
          (segmentsOf outer).dropLast ≠ segmentsOf path)) ∧
    (location outer).matches? outer = true ∧
    ∀ inner, (location outer).matches? inner = true → (location inner).matches? path = true →
      (location outer).matches? path = true := by
  refine ⟨fun hopen ↦ ?_, fun hclosed ↦ ?_, covers_refl _, fun inner ↦ covers_trans⟩
  · exact (covers_iff_of_open hopen).trans (Text.splitOn_prefix_iff ..).symm
  · obtain ⟨front, houter⟩ := List.getLast?_eq_some_iff.1 hclosed
    rw [matches?, segmentsOf, segmentsOf, houter, covers_append_slash_iff,
      dropLast_splitOn_prefix_iff]

/-- With a slash at its end a location covers what follows another slash, but not the path without
the slash. -/
theorem locations_cover_segments_doubledSlash :
    "/é/".toList.getLast? = some slash ∧ "/é".toList.getLast? ≠ some slash ∧
      (location "/é/").matches? "/é//x" = true ∧ (location "/é/").matches? "/é" = false ∧
      segmentsOf "/é" <+: segmentsOf "/é/" ∧ (location "/é").matches? "/é//x" = true := by
  have hclosed : "/é/".toList.getLast? = some slash := by decide
  have hopen : "/é".toList.getLast? ≠ some slash := by decide
  have hcovers := ((locations_cover_segments "/é/" "/é//x").2.1 hclosed).2 (by decide)
  have hlacks := mt ((locations_cover_segments "/é/" "/é").2.1 hclosed).1 (by decide)
  have hfirst := ((locations_cover_segments "/é" "/é/").1 hopen).1 (by decide)
  exact ⟨hclosed, hopen, hcovers, Bool.not_eq_true _ ▸ hlacks, hfirst,
    (locations_cover_segments "/é" "/é//x").2.2.2 "/é/" (by decide) hcovers⟩

end Pattern

end TokenMint
