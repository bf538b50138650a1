import Mathlib.Data.List.Nodup
import Mathlib.Data.List.Perm.Basic
import TokenMint.Proofs.Scope.Nesting

/-!
# A path is resolved by the scopes that cover it

The position of a scope is the last part of its rank, and it changes when scopes are added before it
or moved. Yet of positions only the order counts, and of the order only that of scopes whose
patterns have the same rank (`PlacedScope.precedes_iff`). So the scopes of a chain, without their
positions, stand in the order by rank and declaration (`ScopeTree.LaidBefore`), and there is only
one such order of the scopes that cover a path. Two trees that agree about these scopes and about
the declaration of those that are tied (`ScopeTree.AgreesOn`) therefore make the same of the path,
whatever else they hold (`ScopeTree.resolved_by_covering_scopes`).
-/

set_option autoImplicit false
set_option relaxedAutoImplicit false

namespace TokenMint

/-! ### Entries of a list -/

/-- Entries at two positions are a part of the list in this order. -/
theorem pair_sublist_of_getElem? {α : Type} {items : List α} {first second : α}
    {position later : Nat} (hlt : position < later) (hfirst : items[position]? = some first)
    (hsecond : items[later]? = some second) : [first, second].Sublist items := by
  have hpairs : items.Pairwise fun entry other ↦ [entry, other].Sublist items :=
    List.pairwise_iff_forall_sublist.2 id
  obtain ⟨hposition, rfl⟩ := List.getElem?_eq_some_iff.1 hfirst
  obtain ⟨hlater, rfl⟩ := List.getElem?_eq_some_iff.1 hsecond
  exact List.pairwise_iff_getElem.1 hpairs position later hposition hlater hlt

/-- Entries of a list without repetitions are not there in both orders. -/
theorem not_pair_sublist_of_pair_sublist {α : Type} [DecidableEq α] {items : List α}
    (hnodup : items.Nodup) {first second : α} (hpair : [first, second].Sublist items) :
    ¬[second, first].Sublist items := by
  have hpositions : items.Pairwise fun entry other ↦ items.idxOf entry < items.idxOf other := by
    refine List.pairwise_iff_getElem.2 fun position later hposition hlater hlt ↦ ?_
    rwa [hnodup.idxOf_getElem, hnodup.idxOf_getElem]
  intro hreverse
  have hbefore := List.pairwise_iff_forall_sublist.1 hpositions hpair
  exact Nat.lt_asymm hbefore (List.pairwise_iff_forall_sublist.1 hpositions hreverse)

/-- Entries that pass a test have the same order among all entries that pass it. -/
theorem pair_sublist_filter_iff {α : Type} {items : List α} {test : α → Bool} {first second : α}
    (hfirst : test first = true) (hsecond : test second = true) :
    [first, second].Sublist (items.filter test) ↔ [first, second].Sublist items := by
  refine ⟨fun hpair ↦ hpair.trans List.filter_sublist, fun hpair ↦ ?_⟩
  have hkept : [first, second].filter test = [first, second] := by simp [hfirst, hsecond]
  exact hkept ▸ hpair.filter test

/-- Lists of equally many numbers are compared by their last numbers if the others agree. -/
theorem lex_concat_iff {first second : List Nat} (hlength : first.length = second.length)
    (last last' : Nat) :
    (first ++ [last]).lex (second ++ [last']) = true ↔
      first.lex second = true ∨ first = second ∧ last < last' := by
  induction first generalizing second with
  | nil =>
    obtain rfl := List.length_eq_zero_iff.1 hlength.symm
    simp
  | cons n rest ih =>
    obtain ⟨m, others, rfl⟩ := List.exists_cons_of_length_eq_add_one hlength.symm
    simp only [List.cons_append, List.cons_lex_cons, Bool.or_eq_true, Bool.and_eq_true,
      ih (Nat.succ.inj hlength), List.cons.injEq, beq_iff_eq, and_or_left, or_assoc, and_assoc]

/-! ### Rank and position -/

/-- A scope comes before another one if its rank is no higher and, in case they are tied, it was
declared first. -/
theorem PlacedScope.precedes_iff (first second : PlacedScope) :
    first.precedes second = true ↔
      second.scope.pattern.rank.lex first.scope.pattern.rank = false ∧
        (first.scope.pattern.rank = second.scope.pattern.rank → first.index ≤ second.index) := by
  have hlength : second.scope.pattern.rank.length = first.scope.pattern.rank.length := rfl
  rw [precedes, rank, rank, Bool.not_eq_true', ← Bool.not_eq_true,
    lex_concat_iff hlength, not_or, Bool.not_eq_true, not_and, Nat.not_lt,
    @eq_comm _ second.scope.pattern.rank]

namespace ScopeTree

/-! ### The order of scopes -/

/-- The scopes that cover a path, in the order of declaration. -/
def coveringScopes (tree : ScopeTree) (path : String) : List Scope :=
  tree.scopes.filter fun scope ↦ scope.pattern.matches? path

/-- Whether a scope is declared before another one. -/
def DeclaresBefore (tree : ScopeTree) (scope other : Scope) : Prop :=
  [scope, other].Sublist tree.scopes

instance (tree : ScopeTree) (scope other : Scope) : Decidable (tree.DeclaresBefore scope other) :=
  inferInstanceAs (Decidable (List.Sublist _ _))

/-- Whether a scope is laid down before another one: its rank is no higher, and if the two are tied
it is declared first. -/
def LaidBefore (tree : ScopeTree) (scope other : Scope) : Prop :=
  other.pattern.rank.lex scope.pattern.rank = false ∧
    (scope.pattern.rank = other.pattern.rank → tree.DeclaresBefore scope other)

theorem nodup_scopes (tree : ScopeTree) : tree.scopes.Nodup :=
  List.Nodup.of_map Scope.name tree.nodup_names

theorem map_scope_covering (tree : ScopeTree) (path : String) :
    (tree.covering path).map PlacedScope.scope = tree.coveringScopes path := by
  have hplaced : tree.placed.map PlacedScope.scope = tree.scopes := by
    rw [placed, List.map_map]
    exact List.zipIdx_map_fst 0 tree.scopes
  rw [covering, coveringScopes, ← hplaced, List.filter_map]
  rfl

/-- Of two scopes only one is laid down before the other. -/
theorem not_laidBefore_of_laidBefore (tree : ScopeTree) {scope other : Scope}
    (hlaid : tree.LaidBefore scope other) : ¬tree.LaidBefore other scope := by
  intro hreverse
  have htied : scope.pattern.rank = other.pattern.rank :=
    List.le_antisymm (List.lex_eq_false_iff_ge.1 hlaid.1) (List.lex_eq_false_iff_ge.1 hreverse.1)
  exact not_pair_sublist_of_pair_sublist tree.nodup_scopes (hlaid.2 htied) (hreverse.2 htied.symm)

/-! ### What is made of a path -/

/-- What a tree makes of a path: the key under which tokens are kept, the scopes that apply and the
settings. -/
structure Resolved where
  key : String
  scopes : List Scope
  settings : Settings
  deriving DecidableEq

/-- The resolution of a path over root settings, if a scope covers the path. -/
def resolve (tree : ScopeTree) (path : String) (root : Settings) : Except TokenError Resolved :=
  (tree.chain path).map fun chain ↦
    ⟨chain.key, chain.scopes.map PlacedScope.scope, chain.settings root⟩

/-- The resolution by scopes that are laid down in this order. -/
def resolvedBy (scopes : List Scope) (root : Settings) : Resolved where
  key := String.intercalate (String.singleton Scope.chainSeparator) (scopes.map Scope.name)
  scopes := scopes
  settings := (scopes.map Scope.layer).foldl Settings.merge root

theorem resolvedBy_chain (chain : Chain) (root : Settings) :
    (⟨chain.key, chain.scopes.map PlacedScope.scope, chain.settings root⟩ : Resolved) =
      resolvedBy (chain.scopes.map PlacedScope.scope) root := by
  rw [chain.settings_eq_foldl, Chain.layers, Chain.key, resolvedBy, List.map_map, List.map_map]
  rfl

/-- Scopes of a chain are laid down in order. -/
theorem pairwise_laidBefore {tree : ScopeTree} {path : String} {chain : Chain}
    (hchain : tree.chain path = .ok chain) :
    (chain.scopes.map PlacedScope.scope).Pairwise tree.LaidBefore := by
  have hordered := (pairwise_scopes hchain).imp_of_mem (S := fun placed other ↦
    tree.LaidBefore placed.scope other.scope) ?_
  · exact List.pairwise_map.2 hordered
  rintro placed other hplaced hother ⟨hprecedes, hindex⟩
  obtain ⟨hrank, hties⟩ := (placed.precedes_iff other).1 hprecedes
  exact ⟨hrank, fun htied ↦ pair_sublist_of_getElem? (Nat.lt_of_le_of_ne (hties htied) hindex)
    (getElem?_of_mem_chain hchain hplaced) (getElem?_of_mem_chain hchain hother)⟩

/-- A path is resolved by the scopes that cover it, every one of them laid down before those that
follow. -/
theorem exists_resolve_eq {tree : ScopeTree} {path : String}
    (hcovered : tree.coveringScopes path ≠ []) :
    ∃ scopes, scopes.Perm (tree.coveringScopes path) ∧ scopes.Pairwise tree.LaidBefore ∧
      ∀ root, tree.resolve path root = .ok (resolvedBy scopes root) := by
  cases hchain : tree.chain path with
  | error error =>
    have hnone := ((tree.chain_eq_error_iff path error).1 hchain).1
    rw [← map_scope_covering, hnone] at hcovered
    exact absurd rfl hcovered
  | ok chain =>
    have hperm := ((tree.chain_eq_ok_iff path chain).1 hchain).2.1.map PlacedScope.scope
    rw [map_scope_covering] at hperm
    refine ⟨_, hperm, pairwise_laidBefore hchain, fun root ↦ ?_⟩
    rw [resolve, hchain, ← resolvedBy_chain]
    rfl

theorem resolve_eq_error {tree : ScopeTree} {path : String}
    (hnone : tree.coveringScopes path = []) (root : Settings) :
    tree.resolve path root = .error (.noMatchingScope path) := by
  rw [← map_scope_covering, List.map_eq_nil_iff] at hnone
  rw [resolve, (tree.chain_eq_error_iff path _).2 ⟨hnone, rfl⟩]
  rfl

/-! ### Trees that agree about a path -/

/-- Whether two trees agree about a path: the same scopes cover it, and those of them that are tied
are declared in the same order. -/
structure AgreesOn (first second : ScopeTree) (path : String) : Prop where
  covering (scope : Scope) : scope ∈ first.coveringScopes path ↔ scope ∈ second.coveringScopes path
  ties : ∀ scope ∈ first.coveringScopes path, ∀ other ∈ first.coveringScopes path,
    scope.pattern.rank = other.pattern.rank →
      (first.DeclaresBefore scope other ↔ second.DeclaresBefore scope other)

/-- Whether two trees make the same of a path. -/
def ResolvesAs (first second : ScopeTree) (path : String) : Prop :=
  ∀ root, first.resolve path root = second.resolve path root

/-- The covering scopes of a rank. -/
def tied (tree : ScopeTree) (path : String) (rank : List Nat) : List Scope :=
  (tree.coveringScopes path).filter fun scope ↦ scope.pattern.rank == rank

variable {first second : ScopeTree} {path : String}

theorem nodup_coveringScopes (tree : ScopeTree) (path : String) :
    (tree.coveringScopes path).Nodup :=
  tree.nodup_scopes.filter _

theorem AgreesOn.perm (hagrees : first.AgreesOn second path) :
    (first.coveringScopes path).Perm (second.coveringScopes path) :=
  (List.perm_ext_iff_of_nodup (first.nodup_coveringScopes path)
    (second.nodup_coveringScopes path)).2 hagrees.covering

theorem AgreesOn.laidBefore (hagrees : first.AgreesOn second path) {scope other : Scope}
    (hscope : scope ∈ first.coveringScopes path) (hother : other ∈ first.coveringScopes path)
    (hlaid : first.LaidBefore scope other) : second.LaidBefore scope other :=
  ⟨hlaid.1, fun htied ↦ (hagrees.ties scope hscope other hother htied).1 (hlaid.2 htied)⟩

/-- The order in which scopes are laid down is the same in both trees. -/
theorem AgreesOn.resolvesAs (hagrees : first.AgreesOn second path) :
    first.ResolvesAs second path := by
  intro root
  by_cases hnone : first.coveringScopes path = []
  · have hnone' : second.coveringScopes path = [] :=
      List.perm_nil.1 (hnone ▸ hagrees.perm.symm)
    rw [resolve_eq_error hnone, resolve_eq_error hnone']
  · have hsome : second.coveringScopes path ≠ [] := fun hnil ↦
      hnone (List.perm_nil.1 (hnil ▸ hagrees.perm))
    obtain ⟨scopes, hperm, hlaid, hresolve⟩ := exists_resolve_eq hnone
    obtain ⟨scopes', hperm', hlaid', hresolve'⟩ := exists_resolve_eq hsome
    have hlaidSecond : scopes.Pairwise second.LaidBefore :=
      hlaid.imp_of_mem fun hscope hother ↦
        hagrees.laidBefore (hperm.mem_iff.1 hscope) (hperm.mem_iff.1 hother)
    have hsame : scopes = scopes' := by
      refine (hperm.trans (hagrees.perm.trans hperm'.symm)).eq_of_pairwise ?_ hlaidSecond hlaid'
      exact fun _ _ _ _ hbefore hafter ↦
        absurd hafter (second.not_laidBefore_of_laidBefore hbefore)
    rw [hresolve, hresolve', hsame]

/-! ### Trees that were changed -/

theorem mem_tied_iff (tree : ScopeTree) (path : String) (scope : Scope) (rank : List Nat) :
    scope ∈ tree.tied path rank ↔
      scope ∈ tree.coveringScopes path ∧ scope.pattern.rank = rank := by
  rw [tied, List.mem_filter, beq_iff_eq]

/-- Of scopes that are tied, the order of declaration can be seen without the other scopes. -/
theorem pair_sublist_tied_iff {tree : ScopeTree} {scope other : Scope}
    (hscope : scope ∈ tree.coveringScopes path) (hother : other ∈ tree.coveringScopes path)
    (htied : scope.pattern.rank = other.pattern.rank) :
    [scope, other].Sublist (tree.tied path other.pattern.rank) ↔
      tree.DeclaresBefore scope other := by
  rw [tied, pair_sublist_filter_iff, coveringScopes, pair_sublist_filter_iff, DeclaresBefore]
  · exact (List.mem_filter.1 hscope).2
  · exact (List.mem_filter.1 hother).2
  · exact beq_iff_eq.2 htied
  · exact beq_self_eq_true other.pattern.rank

/-- It is enough that the scopes of each rank are the same, in the same order. -/
theorem agreesOn_of_tied_eq
    (hsame : ∀ rank, first.tied path rank = second.tied path rank) :
    first.AgreesOn second path := by
  have hcovering (scope : Scope) :
      scope ∈ first.coveringScopes path ↔ scope ∈ second.coveringScopes path := by
    have hmem := first.mem_tied_iff path scope scope.pattern.rank
    rw [hsame, mem_tied_iff] at hmem
    simpa using hmem.symm
  refine ⟨hcovering, fun scope hscope other hother htied ↦ ?_⟩
  rw [← pair_sublist_tied_iff hscope hother htied, hsame,
    pair_sublist_tied_iff ((hcovering scope).1 hscope) ((hcovering other).1 hother) htied]

/-- Scopes that do not cover the path can be replaced by others. -/
theorem agreesOn_of_replaced {above removed added below : List Scope}
    (hfirst : first.scopes = above ++ removed ++ below)
    (hsecond : second.scopes = above ++ added ++ below)
    (hremoved : ∀ scope ∈ removed, scope.pattern.matches? path = false)
    (hadded : ∀ scope ∈ added, scope.pattern.matches? path = false) :
    first.AgreesOn second path := by
  have hnone {scopes : List Scope} (h : ∀ scope ∈ scopes, scope.pattern.matches? path = false) :
      (scopes.filter fun scope ↦ scope.pattern.matches? path) = [] :=
    List.filter_eq_nil_iff.2 fun scope hscope ↦ Bool.not_eq_true _ ▸ h scope hscope
  have hcovering : first.coveringScopes path = second.coveringScopes path := by
    simp only [coveringScopes, hfirst, hsecond, List.filter_append, hnone hremoved, hnone hadded]
  exact agreesOn_of_tied_eq fun rank ↦ by rw [tied, tied, hcovering]

/-- Neighbours can be exchanged if they are not tied or one of them does not cover the path. -/
theorem agreesOn_of_exchanged {above below : List Scope} {scope other : Scope}
    (hfirst : first.scopes = above ++ scope :: other :: below)
    (hsecond : second.scopes = above ++ other :: scope :: below)
    (huntied : scope.pattern.matches? path = true → other.pattern.matches? path = true →
      scope.pattern.rank ≠ other.pattern.rank) :
    first.AgreesOn second path := by
  refine agreesOn_of_tied_eq fun rank ↦ ?_
  simp only [tied, coveringScopes, hfirst, hsecond, List.filter_append, List.filter_cons]
  grind

/-- A path is resolved by the scopes that cover it, and of their declaration only the order of those
that are tied counts. So nothing changes for the path when other scopes are added, removed, edited
or moved, or when scopes that are not tied change places. -/
theorem resolved_by_covering_scopes (path : String) (first second : ScopeTree) :
    (first.AgreesOn second path → first.ResolvesAs second path) ∧
    (∀ above removed added below, first.scopes = above ++ removed ++ below →
      second.scopes = above ++ added ++ below →
      (∀ scope ∈ removed, scope.pattern.matches? path = false) →
      (∀ scope ∈ added, scope.pattern.matches? path = false) → first.ResolvesAs second path) ∧
    ∀ above scope other below, first.scopes = above ++ scope :: other :: below →
      second.scopes = above ++ other :: scope :: below →
      (scope.pattern.matches? path = true → other.pattern.matches? path = true →
        scope.pattern.rank ≠ other.pattern.rank) → first.ResolvesAs second path := by
  refine ⟨AgreesOn.resolvesAs, ?_, ?_⟩
  · intro above removed added below hfirst hsecond hremoved hadded
    exact (agreesOn_of_replaced hfirst hsecond hremoved hadded).resolvesAs
  · intro above scope other below hfirst hsecond huntied
    exact (agreesOn_of_exchanged hfirst hsecond huntied).resolvesAs

/-- A scope of a location that gives a length. -/
def lengthAt (name place : String) (length : Nat) : Scope :=
  ⟨name, .location place, { Layer.empty with length := some length }⟩

/-- A tree with two scopes of one location and a scope of another one. -/
def tiedPair : ScopeTree where
  scopes := [lengthAt "all" "/" 8, lengthAt "former" "/a" 9, lengthAt "latter" "/a" 10,
    lengthAt "elsewhere" "/z" 11]
  isName := by decide
  nodup_names := by decide
  valid := by
    simp only [List.forall_mem_cons]
    exact ⟨rfl, rfl, rfl, rfl, List.forall_mem_nil _⟩

/-- The tree with two scopes in place of the other location. -/
def tiedPairReplaced : ScopeTree where
  scopes := [lengthAt "all" "/" 8, lengthAt "former" "/a" 9, lengthAt "latter" "/a" 10,
    lengthAt "elsewhere" "/z/y" 12, lengthAt "added" "/ab" 13]
  isName := by decide
  nodup_names := by decide
  valid := by
    simp only [List.forall_mem_cons]
    exact ⟨rfl, rfl, rfl, rfl, rfl, List.forall_mem_nil _⟩

/-- The tree with two scopes exchanged that are not tied. -/
def tiedPairExchanged : ScopeTree where
  scopes := [lengthAt "former" "/a" 9, lengthAt "all" "/" 8, lengthAt "latter" "/a" 10,
    lengthAt "elsewhere" "/z" 11]
  isName := by decide
  nodup_names := by decide
  valid := by
    simp only [List.forall_mem_cons]
    exact ⟨rfl, rfl, rfl, rfl, List.forall_mem_nil _⟩

/-- All three trees make the same of a path below the location of the pair: the scope declared last
lies innermost, and its length counts. -/
theorem resolved_by_covering_scopes_tiedPair :
    tiedPairReplaced.AgreesOn tiedPairExchanged "/a/b" ∧
      tiedPairReplaced.ResolvesAs tiedPairExchanged "/a/b" ∧
      tiedPair.ResolvesAs tiedPairReplaced "/a/b" ∧
      tiedPair.ResolvesAs tiedPairExchanged "/a/b" ∧
      ∀ tree ∈ [tiedPair, tiedPairReplaced, tiedPairExchanged], ∀ root,
        tree.resolve "/a/b" root = .ok {
          key := "all>former>latter"
          scopes := [lengthAt "all" "/" 8, lengthAt "former" "/a" 9, lengthAt "latter" "/a" 10]
          settings := { root with length := 10, signingKey := none } } := by
  have hperm : (tiedPairReplaced.coveringScopes "/a/b").Perm
      (tiedPairExchanged.coveringScopes "/a/b") := by decide
  have hagrees : tiedPairReplaced.AgreesOn tiedPairExchanged "/a/b" :=
    ⟨fun _ ↦ hperm.mem_iff, by decide⟩
  have hreplaced : tiedPair.ResolvesAs tiedPairReplaced "/a/b" :=
    (resolved_by_covering_scopes _ _ _).2.1
      [lengthAt "all" "/" 8, lengthAt "former" "/a" 9, lengthAt "latter" "/a" 10]
      [lengthAt "elsewhere" "/z" 11] [lengthAt "elsewhere" "/z/y" 12, lengthAt "added" "/ab" 13] []
      rfl rfl (by decide) (by decide)
  have hexchanged : tiedPair.ResolvesAs tiedPairExchanged "/a/b" :=
    (resolved_by_covering_scopes _ _ _).2.2 [] _ _ _ rfl rfl fun _ _ ↦ by decide
  have hresolved : ∀ root, tiedPair.resolve "/a/b" root = .ok {
      key := "all>former>latter"
      scopes := [lengthAt "all" "/" 8, lengthAt "former" "/a" 9, lengthAt "latter" "/a" 10]
      settings := { root with length := 10, signingKey := none } } := by
    intro root
    have hchain : tiedPair.chain "/a/b" = .ok ⟨[⟨0, lengthAt "all" "/" 8⟩,
        ⟨1, lengthAt "former" "/a" 9⟩, ⟨2, lengthAt "latter" "/a" 10⟩]⟩ :=
      (tiedPair.chain_eq_ok_iff _ _).2 ⟨by decide, by decide +kernel, by decide +kernel⟩
    rw [resolve, hchain, Except.map, resolvedBy_chain]
    simp [resolvedBy, lengthAt, Layer.empty, Settings.merge, Settings.mergeAlphabet,
      Settings.mergeKey, Settings.mergeOutput, Scope.chainSeparator]
  refine ⟨hagrees, (resolved_by_covering_scopes _ _ _).1 hagrees, hreplaced, hexchanged, ?_⟩
  simp only [List.forall_mem_cons]
  exact ⟨hresolved, fun root ↦ hreplaced root ▸ hresolved root,
    fun root ↦ hexchanged root ▸ hresolved root, List.forall_mem_nil _⟩

end ScopeTree

end TokenMint
