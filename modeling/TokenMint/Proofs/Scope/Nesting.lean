import TokenMint.Proofs.Scope.Chain
import TokenMint.Proofs.Settings.Inheritance

/-!
# Chains follow the nesting of locations

All locations that cover a path are prefixes of it, and so of any two of them one is a prefix of the
other. A prefix has no more non-empty segments than the longer text (`Text.filled_le_append`) and
no more bytes. Among locations the rank of a scope therefore follows the nesting
(`PlacedScope.prefix_of_precedes`), whatever expressions stand between them in the chain. So the
locations of a chain, read from first to last, are each a prefix of the next, and of two scopes of
which one encloses the other the inner one has the last word on settings
(`ScopeTree.chain_respects_nesting`).
-/

set_option autoImplicit false
set_option relaxedAutoImplicit false

namespace TokenMint

/-! ### Segments of a prefix -/

namespace Text

/-- The number of pieces that are not empty. -/
def filled (cut : Char → Bool) (text : List Char) : Nat :=
  ((segments cut text).filter fun piece ↦ !piece.isEmpty).length

/-- Whether a text begins with a piece that is not empty. -/
def beginsFilled (cut : Char → Bool) (text : List Char) : Bool :=
  text.head?.any fun c ↦ !cut c

variable {cut : Char → Bool}

theorem exists_segments_eq (cut : Char → Bool) (text : List Char) :
    ∃ piece pieces, segments cut text = piece :: pieces ∧
      piece.isEmpty = !beginsFilled cut text := by
  cases text with
  | nil => exact ⟨[], [], rfl, rfl⟩
  | cons c rest =>
    cases hcut : cut c with
    | true => exact ⟨[], segments cut rest, by simp [segments, hcut], by simp [beginsFilled, hcut]⟩
    | false =>
      cases hrest : segments cut rest with
      | nil => exact absurd hrest (segments_ne_nil cut rest)
      | cons piece pieces =>
        exact ⟨c :: piece, pieces, by simp [segments, hcut, hrest, extendFirst],
          by simp [beginsFilled, hcut]⟩

theorem filled_cons_of_cut {c : Char} (hcut : cut c = true) (rest : List Char) :
    filled cut (c :: rest) = filled cut rest := by
  simp [filled, segments, hcut]

/-- A letter adds a piece, unless it stands before a piece that it lengthens. -/
theorem filled_cons_of_not_cut {c : Char} (hcut : cut c = false) (rest : List Char) :
    filled cut (c :: rest) = filled cut rest + if beginsFilled cut rest then 0 else 1 := by
  obtain ⟨piece, pieces, hrest, hpiece⟩ := exists_segments_eq cut rest
  cases hbegins : beginsFilled cut rest <;>
    simp [filled, segments, hcut, hrest, extendFirst, hpiece, hbegins]

theorem filled_pos {text : List Char} (hbegins : beginsFilled cut text = true) :
    0 < filled cut text := by
  obtain ⟨piece, pieces, htext, hpiece⟩ := exists_segments_eq cut text
  simp [filled, htext, hpiece, hbegins]

theorem filled_le_append (cut : Char → Bool) (text more : List Char) :
    filled cut text ≤ filled cut (text ++ more) := by
  induction text with
  | nil => exact Nat.zero_le _
  | cons c rest ih =>
    rw [List.cons_append]
    cases hcut : cut c with
    | true => rwa [filled_cons_of_cut hcut, filled_cons_of_cut hcut]
    | false =>
      rw [filled_cons_of_not_cut hcut, filled_cons_of_not_cut hcut]
      cases rest with
      | cons next others => exact Nat.add_le_add_right ih _
      | nil =>
        -- The piece of the last letter is a piece of the longer text as well.
        have hone : filled cut [] + (if beginsFilled cut [] then 0 else 1) = 1 := rfl
        rw [hone, List.nil_append]
        split
        next hbegins => exact filled_pos hbegins
        next => exact Nat.le_add_left 1 _

end Text

/-! ### Locations -/

/-- The path of a location. -/
def Pattern.place? : Pattern → Option String
  | location place => some place
  | expression _ => none

theorem Pattern.depth_eq_filled {pattern : Pattern} {place : String}
    (hplace : pattern.place? = some place) :
    pattern.depth = Text.filled (· == slash) place.toList := by
  cases pattern with
  | expression regex => simp [place?] at hplace
  | location location =>
    obtain rfl := Option.some.inj hplace
    rfl

theorem Pattern.prefix_of_matches? {pattern : Pattern} {place path : String}
    (hplace : pattern.place? = some place) (hmatches : pattern.matches? path = true) :
    place.toList <+: path.toList := by
  cases pattern with
  | expression regex => simp [place?] at hplace
  | location location =>
    obtain rfl := Option.some.inj hplace
    exact List.isPrefixOf_iff_prefix.1 (Bool.and_eq_true_iff.1 hmatches).1

namespace PlacedScope

variable {first second : PlacedScope} {place place' : String}

/-- Of two locations the one with fewer segments comes first, then the one with fewer bytes, then
the one that was declared first. -/
theorem precedes_iff_of_place? (hfirst : first.scope.pattern.place? = some place)
    (hsecond : second.scope.pattern.place? = some place') :
    first.precedes second = true ↔
      first.scope.pattern.depth < second.scope.pattern.depth ∨
      first.scope.pattern.depth = second.scope.pattern.depth ∧
        (place.utf8ByteSize < place'.utf8ByteSize ∨
          place.utf8ByteSize = place'.utf8ByteSize ∧ first.index ≤ second.index) := by
  obtain ⟨index, name, pattern, layer⟩ := first
  obtain ⟨index', name', pattern', layer'⟩ := second
  cases pattern with
  | expression regex => simp [Pattern.place?] at hfirst
  | location location =>
    cases pattern' with
    | expression regex => simp [Pattern.place?] at hsecond
    | location location' =>
      obtain rfl := Option.some.inj hfirst
      obtain rfl := Option.some.inj hsecond
      -- Both are locations, so the kinds agree, and the lists are compared number by number.
      simp only [precedes, Bool.not_eq_true', List.lex_eq_false_iff_ge, rank, Pattern.rank,
        Pattern.lead, String.ofList_toList, List.cons_append, List.nil_append,
        List.cons_le_cons_iff, List.nil_le, Nat.lt_irrefl, false_or, true_and, and_true,
        Nat.le_iff_lt_or_eq]

/-- Of two locations that cover a path, the one that comes first is a prefix of the other. -/
theorem prefix_of_precedes (hfirst : first.scope.pattern.place? = some place)
    (hsecond : second.scope.pattern.place? = some place') {path : String}
    (hcovers : first.scope.pattern.matches? path = true)
    (hcovers' : second.scope.pattern.matches? path = true)
    (hprecedes : first.precedes second = true) : place.toList <+: place'.toList := by
  have hcomparable := List.prefix_or_prefix_of_prefix (Pattern.prefix_of_matches? hfirst hcovers)
    (Pattern.prefix_of_matches? hsecond hcovers')
  rcases hcomparable with hwithin | ⟨more, hmore⟩
  · exact hwithin
  · -- A location that comes before one of its prefixes has no more bytes than this, so equals it.
    have hdepth : second.scope.pattern.depth ≤ first.scope.pattern.depth := by
      rw [Pattern.depth_eq_filled hfirst, Pattern.depth_eq_filled hsecond, ← hmore]
      exact Text.filled_le_append _ _ more
    have hplace : place = place' ++ String.ofList more := by
      rw [← String.toList_inj, String.toList_append, String.toList_ofList, hmore]
    have hsize : place.utf8ByteSize = place'.utf8ByteSize + (String.ofList more).utf8ByteSize := by
      rw [hplace, String.utf8ByteSize_append]
    have hzero : (String.ofList more).utf8ByteSize = 0 := by
      have hrank := (precedes_iff_of_place? hfirst hsecond).1 hprecedes
      omega
    have hsame : place = place' := by
      rw [hplace, String.utf8ByteSize_eq_zero_iff.1 hzero, String.append_empty]
    subst hsame
    exact List.prefix_rfl

/-- Locations of one path that come first were declared first. -/
theorem index_le_of_precedes (hfirst : first.scope.pattern.place? = some place)
    (hsecond : second.scope.pattern.place? = some place)
    (hprecedes : first.precedes second = true) : first.index ≤ second.index := by
  have hrank := (precedes_iff_of_place? hfirst hsecond).1 hprecedes
  rw [Pattern.depth_eq_filled hfirst, Pattern.depth_eq_filled hsecond] at hrank
  omega

end PlacedScope

/-! ### Chains -/

namespace Chain

/-- The locations among the scopes of a chain, each with the position of its declaration. -/
def locations (chain : Chain) : List (String × Nat) :=
  chain.scopes.filterMap fun placed ↦
    placed.scope.pattern.place?.map fun place ↦ (place, placed.index)

end Chain

namespace ScopeTree

variable {tree : ScopeTree} {path : String} {chain : Chain}

/-- Scopes of a chain are in order, and none of them is there twice. -/
theorem pairwise_scopes (hchain : tree.chain path = .ok chain) :
    chain.scopes.Pairwise fun first second ↦
      first.precedes second = true ∧ first.index ≠ second.index := by
  have hranked := ((tree.chain_eq_ok_iff path chain).1 hchain).2.2
  have hdistinct : chain.scopes.Pairwise fun first second ↦ first.index ≠ second.index :=
    List.pairwise_map.1 (nodup_indices hchain)
  exact hranked.and hdistinct

theorem matches?_of_mem_scopes (hchain : tree.chain path = .ok chain) {placed : PlacedScope}
    (hplaced : placed ∈ chain.scopes) : placed.scope.pattern.matches? path = true :=
  ((tree.mem_covering_iff path placed).1 ((mem_scopes_iff hchain placed).1 hplaced)).2

theorem pairwise_locations (hchain : tree.chain path = .ok chain) :
    chain.locations.Pairwise fun outer inner ↦
      outer.1.toList <+: inner.1.toList ∧ (outer.1 = inner.1 → outer.2 < inner.2) := by
  refine List.pairwise_filterMap.2 ((pairwise_scopes hchain).imp_of_mem ?_)
  rintro first second hfirst hsecond ⟨hprecedes, hindex⟩ outer houter inner hinner
  obtain ⟨place, hplace, rfl⟩ := Option.map_eq_some_iff.1 houter
  obtain ⟨place', hplace', rfl⟩ := Option.map_eq_some_iff.1 hinner
  refine ⟨PlacedScope.prefix_of_precedes hplace hplace' (matches?_of_mem_scopes hchain hfirst)
    (matches?_of_mem_scopes hchain hsecond) hprecedes, ?_⟩
  intro hsame
  obtain rfl : place = place' := hsame
  exact Nat.lt_of_le_of_ne (PlacedScope.index_le_of_precedes hplace hplace' hprecedes) hindex

/-- A location that encloses another one comes before it. -/
theorem exists_scopes_eq_of_encloses (hchain : tree.chain path = .ok chain)
    {outer inner : PlacedScope} (houter : outer ∈ chain.scopes) (hinner : inner ∈ chain.scopes)
    {place place' : String} (hplace : outer.scope.pattern.place? = some place)
    (hplace' : inner.scope.pattern.place? = some place')
    (hwithin : place.toList <+: place'.toList) (hne : place ≠ place') :
    ∃ above between below, chain.scopes = above ++ outer :: between ++ inner :: below := by
  obtain ⟨above, rest, hscopes⟩ := List.append_of_mem houter
  have hsorted := pairwise_scopes hchain
  rw [hscopes] at hsorted hinner
  rcases List.mem_append.1 hinner with habove | hrest
  · -- Then the inner location would be a prefix of the outer one.
    have hprecedes := ((List.pairwise_append.1 hsorted).2.2 inner habove outer List.mem_cons_self).1
    have hreverse := PlacedScope.prefix_of_precedes hplace' hplace
      (matches?_of_mem_scopes hchain (hscopes ▸ List.mem_append_left _ habove))
      (matches?_of_mem_scopes hchain houter) hprecedes
    have hlength := Nat.le_antisymm hwithin.length_le hreverse.length_le
    exact absurd (String.toList_inj.1 (hwithin.eq_of_length hlength)) hne
  · rcases List.mem_cons.1 hrest with rfl | hbelow
    · exact absurd (Option.some.inj (hplace.symm.trans hplace')) hne
    · obtain ⟨between, below, rfl⟩ := List.append_of_mem hbelow
      exact ⟨above, between, below, by rw [hscopes, List.append_assoc, List.cons_append]⟩

/-- What holds of the chain of a path. -/
structure Nests (tree : ScopeTree) (path : String) (chain : Chain) : Prop where
  /-- No scope is there twice. -/
  nodup : chain.indices.Nodup
  /-- The scopes that are there are those that cover the path. -/
  mem_indices_iff (index : Nat) : index ∈ chain.indices ↔
    ∃ scope, tree.scopes[index]? = some scope ∧ scope.pattern.matches? path = true
  scope_eq : ∀ placed ∈ chain.scopes, tree.scopes[placed.index]? = some placed.scope
  /-- Every location is a prefix of those that follow. -/
  locations : chain.locations.Pairwise fun outer inner ↦
    outer.1.toList <+: inner.1.toList ∧ (outer.1 = inner.1 → outer.2 < inner.2)
  /-- Of two scopes of which one encloses the other, the inner one is laid down later, and what it
  gives counts unless a scope further below gives something else. -/
  encloses {outer inner : PlacedScope} (houter : outer ∈ chain.scopes)
    (hinner : inner ∈ chain.scopes) {place place' : String}
    (hplace : outer.scope.pattern.place? = some place)
    (hplace' : inner.scope.pattern.place? = some place')
    (hwithin : place.toList <+: place'.toList) (hne : place ≠ place') :
    ∃ above between below, chain.scopes = above ++ outer :: between ++ inner :: below ∧
      ∀ root, Settings.Counts inner.scope.layer (below.map fun placed ↦ placed.scope.layer)
        (chain.settings root)

theorem nests_chain (hchain : tree.chain path = .ok chain) : tree.Nests path chain where
  nodup := nodup_indices hchain
  mem_indices_iff index := by
    simp only [Chain.indices, List.mem_map, mem_scopes_iff hchain, mem_covering_iff]
    constructor
    · rintro ⟨placed, ⟨hscope, hmatches⟩, rfl⟩
      exact ⟨placed.scope, hscope, hmatches⟩
    · rintro ⟨scope, hscope, hmatches⟩
      exact ⟨⟨index, scope⟩, ⟨hscope, hmatches⟩, rfl⟩
  scope_eq _ := getElem?_of_mem_chain hchain
  locations := pairwise_locations hchain
  encloses := by
    intro outer inner houter hinner place place' hplace hplace' hwithin hne
    obtain ⟨above, between, below, hscopes⟩ :=
      exists_scopes_eq_of_encloses hchain houter hinner hplace hplace' hwithin hne
    refine ⟨above, between, below, hscopes, fun root ↦ ?_⟩
    rw [chain.settings_eq_foldl, Chain.layers, hscopes, List.map_append, List.map_cons]
    exact Settings.counts_foldl_merge root _ _ _

/-- A path has no chain if no scope covers it. Otherwise it has a chain, which holds the scopes that
cover it and follows the nesting of their locations. -/
theorem chain_respects_nesting (tree : ScopeTree) (path : String) :
    (tree.chain path = .error (.noMatchingScope path) ↔
      ∀ scope ∈ tree.scopes, scope.pattern.matches? path = false) ∧
    ((∃ scope ∈ tree.scopes, scope.pattern.matches? path = true) →
      ∃ chain, tree.chain path = .ok chain ∧ tree.Nests path chain) := by
  refine ⟨?_, ?_⟩
  · rw [chain_eq_error_iff, covering_eq_nil_iff]
    simp
  · rintro ⟨scope, hscope, hmatches⟩
    cases hchain : tree.chain path with
    | error error =>
      have hnone := ((tree.chain_eq_error_iff path error).1 hchain).1
      have hfalse := (tree.covering_eq_nil_iff path).1 hnone scope hscope
      exact absurd (hmatches.symm.trans hfalse) Bool.noConfusion
    | ok chain =>
      exact ⟨chain, rfl, nests_chain hchain⟩

/-- A tree of three locations, the innermost of which was declared first, and an expression that
matches everywhere. -/
def innermostFirst : ScopeTree where
  scopes := [⟨"inner", .location "/é/", .empty⟩, ⟨"anywhere", .expression ⟨"", .empty⟩, .empty⟩,
    ⟨"outer", .location "/é", .empty⟩, ⟨"all", .location "", .empty⟩]
  isName := by decide
  nodup_names := by decide
  valid := by
    simp only [List.forall_mem_cons]
    exact ⟨rfl, rfl, rfl, rfl, List.forall_mem_nil _⟩

/-- The expression stands between locations of the chain, and the locations are nested all the
same. -/
theorem chain_respects_nesting_innermostFirst :
    ∃ chain, innermostFirst.chain "/é/x" = .ok chain ∧ chain.indices = [3, 1, 2, 0] ∧
      chain.locations = [("", 3), ("/é", 2), ("/é/", 0)] ∧ innermostFirst.Nests "/é/x" chain := by
  let all : PlacedScope := ⟨3, "all", .location "", .empty⟩
  let anywhere : PlacedScope := ⟨1, "anywhere", .expression ⟨"", .empty⟩, .empty⟩
  let outer : PlacedScope := ⟨2, "outer", .location "/é", .empty⟩
  let inner : PlacedScope := ⟨0, "inner", .location "/é/", .empty⟩
  have hchain : innermostFirst.chain "/é/x" = .ok ⟨[all, anywhere, outer, inner]⟩ :=
    (innermostFirst.chain_eq_ok_iff _ _).2 ⟨by decide, by decide +kernel, by decide +kernel⟩
  have hcovered : ∃ scope ∈ innermostFirst.scopes, scope.pattern.matches? "/é/x" = true :=
    ⟨all.scope, by decide, by decide⟩
  obtain ⟨chain, hsame, hnests⟩ := (chain_respects_nesting innermostFirst "/é/x").2 hcovered
  obtain rfl := Except.ok.inj (hsame.symm.trans hchain)
  exact ⟨_, hchain, rfl, rfl, hnests⟩

end ScopeTree

end TokenMint
