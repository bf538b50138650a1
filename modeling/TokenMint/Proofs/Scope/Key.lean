import TokenMint.Proofs.Scope.Chain
import TokenMint.Table

/-!
# Keys and chains

Tokens and resolutions are kept under the key of a chain, which is the text of the scope names with
a separator between them. No name holds the separator, so a key can be taken apart again
(`intercalate_injective`), and no two scopes of a tree share a name
(`ScopeTree.eq_of_name_eq`). Two chains of one tree that have the same key are therefore the same
chain (`ScopeTree.chain_eq_of_key_eq`): what is kept under a key belongs to a single chain.

The key of a named token is that of its chain, another separator and a name that may be any text.
The first such separator ends the key of the chain, which holds none, so a named key tells the
chain and the name (`ScopeTree.namedKey_inj`) and is the key of no chain
(`ScopeTree.key_ne_namedKey`). So the keys of a tree, be they of chains or of named tokens
(`Chain.keyOf`), stand for the positions of the scopes and the name, and nothing else
(`ScopeTree.keys_unambiguous`).
-/

set_option autoImplicit false
set_option relaxedAutoImplicit false

namespace TokenMint

/-- Texts that lack the separator can be read off their joined text, if there are any. -/
theorem intercalate_injective {separator : Char} {first second : List String}
    (hfirst : ∀ text ∈ first, separator ∉ text.toList) (hsome : first ≠ [])
    (hsecond : ∀ text ∈ second, separator ∉ text.toList) (hsome' : second ≠ [])
    (hjoined : String.intercalate (String.singleton separator) first =
      String.intercalate (String.singleton separator) second) :
    first = second := by
  have hsplit : ∀ texts : List String, (∀ text ∈ texts, separator ∉ text.toList) → texts ≠ [] →
      (String.intercalate (String.singleton separator) texts).toList.splitOn separator =
        texts.map String.toList := by
    intro texts htexts hne
    rw [String.toList_intercalate, String.toList_singleton]
    refine List.splitOn_intercalate separator ?_ ?_
    · intro letters hletters
      obtain ⟨text, htext, rfl⟩ := List.mem_map.1 hletters
      exact htexts text htext
    · exact fun hnil ↦ hne (List.map_eq_nil_iff.1 hnil)
  have hletters : first.map String.toList = second.map String.toList := by
    rw [← hsplit first hfirst hsome, ← hsplit second hsecond hsome', hjoined]
  exact (List.map_inj_right fun _ _ ↦ String.toList_inj.1).1 hletters

/-- A letter of a joined text is the separator or a letter of one of the texts. -/
theorem mem_intercalate {separator letter : Char} {texts : List String}
    (hmem : letter ∈ (String.intercalate (String.singleton separator) texts).toList) :
    letter = separator ∨ ∃ text ∈ texts, letter ∈ text.toList := by
  rw [String.toList_intercalate, String.toList_singleton, List.intercalate] at hmem
  induction texts with
  | nil => simp at hmem
  | cons text rest ih =>
    cases rest with
    | nil => exact .inr ⟨text, List.mem_cons_self, by simpa using hmem⟩
    | cons next others =>
      rw [List.map_cons, List.map_cons, List.intersperse_cons_cons, List.flatten_cons,
        List.flatten_cons, ← List.map_cons] at hmem
      rcases List.mem_append.1 hmem with hletter | hmem
      · exact .inr ⟨text, List.mem_cons_self, hletter⟩
      · rcases List.mem_append.1 hmem with hseparator | hmem
        · exact .inl (List.mem_singleton.1 hseparator)
        · exact (ih hmem).imp_right fun ⟨other, hother, hletter⟩ ↦
            ⟨other, List.mem_cons_of_mem _ hother, hletter⟩

/-- The key under which a chain has its own tokens, or those of a named token. -/
def Chain.keyOf (chain : Chain) : Option String → String
  | none => chain.key
  | some name => namedKey chain.key name

namespace ScopeTree

/-! ### Scopes of a tree -/

/-- No two scopes share a name. -/
theorem eq_of_name_eq (tree : ScopeTree) {first second : PlacedScope}
    (hfirst : first ∈ tree.placed) (hsecond : second ∈ tree.placed)
    (hname : first.scope.name = second.scope.name) : first = second := by
  refine tree.eq_of_index_eq hfirst hsecond ?_
  rw [mem_placed_iff] at hfirst hsecond
  have hlt : first.index < (tree.scopes.map Scope.name).length := by
    rw [List.length_map]
    exact (List.getElem?_eq_some_iff.1 hfirst).1
  refine (List.getElem?_inj hlt tree.nodup_names).1 ?_
  rw [List.getElem?_map, List.getElem?_map, hfirst, hsecond, Option.map_some, Option.map_some,
    hname]

/-- What tells scopes of the tree apart tells lists of them apart. -/
theorem eq_of_map_eq (tree : ScopeTree) {α : Type} {f : PlacedScope → α}
    (hf : ∀ first ∈ tree.placed, ∀ second ∈ tree.placed, f first = f second → first = second)
    {first second : List PlacedScope} (hfirst : ∀ placed ∈ first, placed ∈ tree.placed)
    (hsecond : ∀ placed ∈ second, placed ∈ tree.placed) (heq : first.map f = second.map f) :
    first = second := by
  induction first generalizing second with
  | nil => exact (List.map_eq_nil_iff.1 heq.symm).symm
  | cons placed rest ih =>
    cases second with
    | nil => simp at heq
    | cons other others =>
      rw [List.map_cons, List.map_cons, List.cons.injEq] at heq
      rw [List.forall_mem_cons] at hfirst hsecond
      rw [hf placed hfirst.1 other hsecond.1 heq.1, ih hfirst.2 hsecond.2 heq.2]

/-! ### Chains of a tree -/

/-- No name of a scope in a chain holds the separator. -/
theorem chainSeparator_not_mem {tree : ScopeTree} {path : String} {chain : Chain}
    (hchain : tree.chain path = .ok chain) :
    ∀ name ∈ chain.scopes.map fun placed ↦ placed.scope.name,
      Scope.chainSeparator ∉ name.toList := by
  intro name hname
  obtain ⟨placed, hplaced, rfl⟩ := List.mem_map.1 hname
  exact (tree.isName placed.scope (mem_scopes_of_mem_chain hchain hplaced)).2.1

/-- The key of a chain tells which chain of the tree it is. -/
theorem chain_eq_of_key_eq {tree : ScopeTree} {path other : String} {chain chain' : Chain}
    (hchain : tree.chain path = .ok chain) (hchain' : tree.chain other = .ok chain')
    (hkey : chain.key = chain'.key) : chain = chain' := by
  obtain ⟨hsome, hplaced⟩ := of_chain hchain
  obtain ⟨hsome', hplaced'⟩ := of_chain hchain'
  have hnames := intercalate_injective (chainSeparator_not_mem hchain)
    (fun hnil ↦ hsome (List.map_eq_nil_iff.1 hnil)) (chainSeparator_not_mem hchain')
    (fun hnil ↦ hsome' (List.map_eq_nil_iff.1 hnil)) hkey
  have hscopes := tree.eq_of_map_eq (fun _ hfirst _ hsecond ↦ tree.eq_of_name_eq hfirst hsecond)
    hplaced hplaced' hnames
  cases chain
  cases chain'
  exact congrArg Chain.mk hscopes

/-- So do the positions of its scopes. -/
theorem chain_eq_of_indices_eq {tree : ScopeTree} {path other : String} {chain chain' : Chain}
    (hchain : tree.chain path = .ok chain) (hchain' : tree.chain other = .ok chain')
    (hindices : chain.indices = chain'.indices) : chain = chain' := by
  have hscopes := tree.eq_of_map_eq (fun _ hfirst _ hsecond ↦ tree.eq_of_index_eq hfirst hsecond)
    (of_chain hchain).2 (of_chain hchain').2 hindices
  cases chain
  cases chain'
  exact congrArg Chain.mk hscopes

/-! ### Keys of named tokens -/

/-- The key of a chain does not hold what separates it from the name of a named token. -/
theorem namedSeparator_not_mem_key {tree : ScopeTree} {path : String} {chain : Chain}
    (hchain : tree.chain path = .ok chain) : Scope.namedSeparator ∉ chain.key.toList := by
  intro hmem
  rcases mem_intercalate hmem with hseparator | ⟨name, hname, hletter⟩
  · exact absurd hseparator (by decide)
  · obtain ⟨placed, hplaced, rfl⟩ := List.mem_map.1 hname
    exact (tree.isName placed.scope (mem_scopes_of_mem_chain hchain hplaced)).2.2 hletter

/-- A named key tells the chain and the name. -/
theorem namedKey_inj {tree : ScopeTree} {path other : String} {chain chain' : Chain}
    (hchain : tree.chain path = .ok chain) (hchain' : tree.chain other = .ok chain')
    {name name' : String} (hkey : namedKey chain.key name = namedKey chain'.key name') :
    chain = chain' ∧ name = name' := by
  have hletters (chain : Chain) (name : String) : (namedKey chain.key name).toList =
      chain.key.toList ++ Scope.namedSeparator :: name.toList := by
    simp [namedKey]
  have hsplit := congrArg (fun key : String ↦ Text.splitFirst Scope.namedSeparator key.toList) hkey
  simp only [hletters, Text.splitFirst_append _ (namedSeparator_not_mem_key hchain),
    Text.splitFirst_append _ (namedSeparator_not_mem_key hchain')] at hsplit
  obtain ⟨hchains, hnames⟩ := Prod.mk.inj (Option.some.inj hsplit)
  exact ⟨chain_eq_of_key_eq hchain hchain' (String.toList_inj.1 hchains),
    String.toList_inj.1 hnames⟩

/-- No named key is the key of a chain. -/
theorem key_ne_namedKey {tree : ScopeTree} {path : String} {chain : Chain}
    (hchain : tree.chain path = .ok chain) (chainKey name : String) :
    chain.key ≠ namedKey chainKey name := by
  intro hkey
  refine namedSeparator_not_mem_key hchain ?_
  rw [hkey, namedKey, String.toList_append, String.toList_append, String.toList_singleton]
  exact List.mem_append_left _ (List.mem_append_right _ (List.mem_singleton_self _))

/-! ### What keys stand for -/

theorem key_eq_key_iff {tree : ScopeTree} {path other : String} {chain chain' : Chain}
    (hchain : tree.chain path = .ok chain) (hchain' : tree.chain other = .ok chain') :
    chain.key = chain'.key ↔ chain.indices = chain'.indices := by
  constructor
  · intro hkey
    rw [chain_eq_of_key_eq hchain hchain' hkey]
  · intro hindices
    rw [chain_eq_of_indices_eq hchain hchain' hindices]

theorem namedKey_eq_namedKey_iff {tree : ScopeTree} {path other : String} {chain chain' : Chain}
    (hchain : tree.chain path = .ok chain) (hchain' : tree.chain other = .ok chain')
    (name name' : String) :
    namedKey chain.key name = namedKey chain'.key name' ↔
      chain.indices = chain'.indices ∧ name = name' := by
  constructor
  · intro hkey
    obtain ⟨rfl, rfl⟩ := namedKey_inj hchain hchain' hkey
    exact ⟨rfl, rfl⟩
  · rintro ⟨hindices, rfl⟩
    rw [chain_eq_of_indices_eq hchain hchain' hindices]

theorem keyOf_eq_keyOf_iff {tree : ScopeTree} {path other : String} {chain chain' : Chain}
    (hchain : tree.chain path = .ok chain) (hchain' : tree.chain other = .ok chain')
    (name name' : Option String) :
    chain.keyOf name = chain'.keyOf name' ↔ chain.indices = chain'.indices ∧ name = name' := by
  cases name with
  | none =>
    cases name' with
    | none => simpa [Chain.keyOf] using key_eq_key_iff hchain hchain'
    | some name' => simpa [Chain.keyOf] using key_ne_namedKey hchain chain'.key name'
  | some name =>
    cases name' with
    | none => simpa [Chain.keyOf] using (key_ne_namedKey hchain' chain.key name).symm
    | some name' => simpa [Chain.keyOf] using namedKey_eq_namedKey_iff hchain hchain' name name'

/-- Two chains of a tree have one key if they have the same scopes, their named keys agree if the
names do so as well, and no named key is the key of a chain. So in a table by key, be it of
resolutions or of slots, what is put there for one chain or named token is found only for the same
one. -/
theorem keys_unambiguous {tree : ScopeTree} {path other : String} {chain chain' : Chain}
    (hchain : tree.chain path = .ok chain) (hchain' : tree.chain other = .ok chain')
    (name name' : String) :
    (chain.key = chain'.key ↔ chain.indices = chain'.indices) ∧
    (namedKey chain.key name = namedKey chain'.key name' ↔
      chain.indices = chain'.indices ∧ name = name') ∧
    chain.key ≠ namedKey chain'.key name' ∧
    ∀ {α : Type} (table : Table α) (value : α) (named named' : Option String),
      (table.insert (chain.keyOf named) value).get? (chain'.keyOf named') =
        if chain.indices = chain'.indices ∧ named = named' then some value
        else table.get? (chain'.keyOf named') := by
  refine ⟨key_eq_key_iff hchain hchain', namedKey_eq_namedKey_iff hchain hchain' name name',
    key_ne_namedKey hchain chain'.key name', ?_⟩
  intro α table value named named'
  have hkeys : chain'.keyOf named' = chain.keyOf named ↔
      chain.indices = chain'.indices ∧ named = named' :=
    eq_comm.trans (keyOf_eq_keyOf_iff hchain hchain' named named')
  rw [Table.get?_insert]
  simp only [hkeys]

/-- A tree of two scopes of which the inner one was declared first. -/
def nestedPair : ScopeTree where
  scopes := [⟨"app", .location "/app", .empty⟩, ⟨"site", .location "/", .empty⟩]
  isName := by decide
  nodup_names := by decide
  valid := List.forall_mem_cons.2 ⟨rfl, List.forall_mem_cons.2 ⟨rfl, List.forall_mem_nil _⟩⟩

/-- Names that hold separators do not make the keys of two chains agree. -/
theorem keys_unambiguous_nestedPair :
    ∃ chain chain', nestedPair.chain "/app/x" = .ok chain ∧ nestedPair.chain "/x" = .ok chain' ∧
      chain.indices = [1, 0] ∧ chain'.indices = [1] ∧
      (chain.key = chain'.key ↔ chain.indices = chain'.indices) ∧
      (namedKey chain.key "A" = namedKey chain'.key "app#A" ↔
        chain.indices = chain'.indices ∧ "A" = "app#A") ∧
      chain.key ≠ namedKey chain'.key "app#A" := by
  let app : PlacedScope := ⟨0, "app", .location "/app", .empty⟩
  let site : PlacedScope := ⟨1, "site", .location "/", .empty⟩
  have hchain : nestedPair.chain "/app/x" = .ok ⟨[site, app]⟩ :=
    (nestedPair.chain_eq_ok_iff _ _).2 ⟨by decide, by decide +kernel, by decide +kernel⟩
  have hchain' : nestedPair.chain "/x" = .ok ⟨[site]⟩ :=
    (nestedPair.chain_eq_ok_iff _ _).2 ⟨by decide, by decide +kernel, by decide +kernel⟩
  obtain ⟨hkeys, hnamed, hne, -⟩ := keys_unambiguous hchain hchain' "A" "app#A"
  exact ⟨_, _, hchain, hchain', rfl, rfl, hkeys, hnamed, hne⟩

end ScopeTree

end TokenMint
