import TokenMint.Scope.Tree

/-!
# The chain of a path

The chain of a path holds the scopes that cover it, in an order in which no scope comes before one
of a lower rank. The position is part of the rank, so there is only one such order, and that is all
there is to know about a chain (`ScopeTree.chain_eq_ok_iff`). A path has a chain unless no scope
covers it (`ScopeTree.chain_eq_error_iff`).
-/

set_option autoImplicit false
set_option relaxedAutoImplicit false

namespace TokenMint

/-! ### The order of scopes -/

namespace PlacedScope

theorem precedes_total (first second : PlacedScope) :
    first.precedes second = true ∨ second.precedes first = true := by
  simp only [precedes, Bool.not_eq_true', List.lex_eq_false_iff_ge]
  exact List.le_total _ _

theorem precedes_trans (first second third : PlacedScope) (hfirst : first.precedes second = true)
    (hsecond : second.precedes third = true) : first.precedes third = true := by
  simp only [precedes, Bool.not_eq_true', List.lex_eq_false_iff_ge] at *
  exact List.le_trans hfirst hsecond

/-- Only scopes at one position precede each other. -/
theorem index_eq_of_precedes {first second : PlacedScope} (hfirst : first.precedes second = true)
    (hsecond : second.precedes first = true) : first.index = second.index := by
  simp only [precedes, Bool.not_eq_true', List.lex_eq_false_iff_ge] at hfirst hsecond
  have hrank : first.rank = second.rank := List.le_antisymm hfirst hsecond
  exact List.singleton_inj.1 (List.append_inj' hrank rfl).2

end PlacedScope

namespace ScopeTree

/-! ### Scopes of a tree -/

theorem mem_placed_iff (tree : ScopeTree) (placed : PlacedScope) :
    placed ∈ tree.placed ↔ tree.scopes[placed.index]? = some placed.scope := by
  constructor
  · intro hplaced
    obtain ⟨entry, hentry, rfl⟩ := List.mem_map.1 hplaced
    exact List.mem_zipIdx_iff_getElem?.1 hentry
  · intro hscope
    exact List.mem_map.2
      ⟨(placed.scope, placed.index), List.mem_zipIdx_iff_getElem?.2 hscope, rfl⟩

/-- No two scopes share a position. -/
theorem eq_of_index_eq (tree : ScopeTree) {first second : PlacedScope}
    (hfirst : first ∈ tree.placed) (hsecond : second ∈ tree.placed)
    (hindex : first.index = second.index) : first = second := by
  rw [mem_placed_iff] at hfirst hsecond
  rw [hindex, hsecond] at hfirst
  cases first
  cases second
  simp_all

theorem nodup_map_index_placed (tree : ScopeTree) :
    (tree.placed.map PlacedScope.index).Nodup := by
  have hindices : tree.placed.map PlacedScope.index = tree.scopes.zipIdx.map Prod.snd := by
    rw [placed, List.map_map]
    rfl
  rw [hindices, List.zipIdx_map_snd]
  exact List.nodup_range'

/-! ### Scopes that cover a path -/

/-- The scopes that cover a path, in the order of declaration. -/
def covering (tree : ScopeTree) (path : String) : List PlacedScope :=
  tree.placed.filter fun placed ↦ placed.scope.pattern.matches? path

theorem mem_covering_iff (tree : ScopeTree) (path : String) (placed : PlacedScope) :
    placed ∈ tree.covering path ↔
      tree.scopes[placed.index]? = some placed.scope ∧
        placed.scope.pattern.matches? path = true := by
  rw [covering, List.mem_filter, mem_placed_iff]

theorem mem_placed_of_mem_covering {tree : ScopeTree} {path : String} {placed : PlacedScope}
    (hcovering : placed ∈ tree.covering path) : placed ∈ tree.placed :=
  (List.mem_filter.1 hcovering).1

theorem covering_eq_nil_iff (tree : ScopeTree) (path : String) :
    tree.covering path = [] ↔ ∀ scope ∈ tree.scopes, scope.pattern.matches? path = false := by
  rw [List.eq_nil_iff_forall_not_mem]
  simp only [mem_covering_iff, not_and, Bool.not_eq_true]
  constructor
  · intro hnone scope hscope
    obtain ⟨index, hindex⟩ := List.mem_iff_getElem?.1 hscope
    exact hnone ⟨index, scope⟩ hindex
  · intro hnone placed hplaced
    exact hnone placed.scope (List.mem_of_getElem? hplaced)

/-! ### Chains -/

theorem chain_eq_error_iff (tree : ScopeTree) (path : String) (error : TokenError) :
    tree.chain path = .error error ↔ tree.covering path = [] ∧ error = .noMatchingScope path := by
  unfold chain
  rw [← covering]
  cases tree.covering path with
  | nil => simp [eq_comm]
  | cons first rest => simp

/-- The chain of a path is the only order by rank of the scopes that cover it. -/
theorem chain_eq_ok_iff (tree : ScopeTree) (path : String) (chain : Chain) :
    tree.chain path = .ok chain ↔
      chain.scopes ≠ [] ∧ chain.scopes.Perm (tree.covering path) ∧
        chain.scopes.Pairwise fun first second ↦ first.precedes second = true := by
  have hsorted : ((tree.covering path).mergeSort PlacedScope.precedes).Pairwise
      fun first second ↦ first.precedes second = true :=
    List.pairwise_mergeSort PlacedScope.precedes_trans
      (fun first second ↦ Bool.or_eq_true_iff.2 (PlacedScope.precedes_total first second)) _
  have hperm := List.mergeSort_perm (tree.covering path) PlacedScope.precedes
  have hchain : tree.chain path = .ok chain ↔
      tree.covering path ≠ [] ∧
        chain.scopes = (tree.covering path).mergeSort PlacedScope.precedes := by
    obtain ⟨scopes⟩ := chain
    unfold ScopeTree.chain
    rw [← covering]
    cases tree.covering path with
    | nil => simp
    | cons first rest => simp [eq_comm]
  rw [hchain]
  constructor
  · rintro ⟨hsome, hscopes⟩
    rw [hscopes]
    exact ⟨fun hnil ↦ hsome (hperm.symm.trans (.of_eq hnil)).eq_nil, hperm, hsorted⟩
  · rintro ⟨hsome, hscopes, hranked⟩
    refine ⟨fun hnil ↦ hsome (hscopes.trans (.of_eq hnil)).eq_nil, ?_⟩
    refine (hscopes.trans hperm.symm).eq_of_pairwise ?_ hranked hsorted
    intro first second hfirst hsecond hbefore hafter
    have hplaced : first ∈ tree.placed := mem_placed_of_mem_covering (hscopes.mem_iff.1 hfirst)
    have hplaced' : second ∈ tree.placed := mem_placed_of_mem_covering (hperm.mem_iff.1 hsecond)
    exact tree.eq_of_index_eq hplaced hplaced' (PlacedScope.index_eq_of_precedes hbefore hafter)

variable {tree : ScopeTree} {path : String} {chain : Chain}

/-- The scopes of a chain are those that cover the path. -/
theorem mem_scopes_iff (hchain : tree.chain path = .ok chain) (placed : PlacedScope) :
    placed ∈ chain.scopes ↔ placed ∈ tree.covering path :=
  ((tree.chain_eq_ok_iff path chain).1 hchain).2.1.mem_iff

theorem nodup_indices (hchain : tree.chain path = .ok chain) : chain.indices.Nodup := by
  have hperm := ((tree.chain_eq_ok_iff path chain).1 hchain).2.1
  have hcovering : ((tree.covering path).map PlacedScope.index).Nodup :=
    tree.nodup_map_index_placed.sublist (List.filter_sublist.map _)
  exact (hperm.map PlacedScope.index).nodup_iff.2 hcovering

/-- A chain has a scope, and all its scopes are scopes of the tree. -/
theorem of_chain (hchain : tree.chain path = .ok chain) :
    chain.scopes ≠ [] ∧ ∀ placed ∈ chain.scopes, placed ∈ tree.placed :=
  ⟨((tree.chain_eq_ok_iff path chain).1 hchain).1, fun placed hplaced ↦
    mem_placed_of_mem_covering ((mem_scopes_iff hchain placed).1 hplaced)⟩

/-- A scope of a chain stands in the tree at its position. -/
theorem getElem?_of_mem_chain (hchain : tree.chain path = .ok chain) {placed : PlacedScope}
    (hplaced : placed ∈ chain.scopes) : tree.scopes[placed.index]? = some placed.scope :=
  (tree.mem_placed_iff placed).1 ((of_chain hchain).2 placed hplaced)

theorem mem_scopes_of_mem_chain (hchain : tree.chain path = .ok chain) {placed : PlacedScope}
    (hplaced : placed ∈ chain.scopes) : placed.scope ∈ tree.scopes :=
  List.mem_of_getElem? (getElem?_of_mem_chain hchain hplaced)

end ScopeTree

end TokenMint
