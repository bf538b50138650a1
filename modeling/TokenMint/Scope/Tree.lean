import TokenMint.Error
import TokenMint.Scope
import TokenMint.Settings

/-!
# Scopes that cover a path

A `ScopeTree` is a list of scopes that has been checked: names are proper and distinct, and every
layer is valid. `ScopeTree.chain` selects the scopes that cover a path and puts the less specific
ones first; scopes of equal rank keep the order of declaration. The settings for the path are the
root settings with the layers of the chain laid over them in this order.
-/

set_option autoImplicit false
set_option relaxedAutoImplicit false

namespace TokenMint

/-- A scope and its position among all scopes. -/
structure PlacedScope where
  index : Nat
  scope : Scope
  deriving DecidableEq

namespace PlacedScope

/-- The rank of the pattern, and the position last. -/
def rank (placed : PlacedScope) : List Nat :=
  placed.scope.pattern.rank ++ [placed.index]

/-- Whether a scope is laid down before another one. -/
def precedes (first second : PlacedScope) : Bool :=
  !second.rank.lex first.rank

end PlacedScope

/-- The scopes that cover a path, the less specific ones first. -/
structure Chain where
  scopes : List PlacedScope
  deriving DecidableEq

namespace Chain

/-- The positions of the scopes. -/
def indices (chain : Chain) : List Nat :=
  chain.scopes.map PlacedScope.index

/-- The names of the scopes, joined. -/
def key (chain : Chain) : String :=
  String.intercalate (String.singleton Scope.chainSeparator)
    (chain.scopes.map fun placed ↦ placed.scope.name)

/-- The settings with the layers of all scopes laid over them. -/
def settings (chain : Chain) (root : Settings) : Settings :=
  chain.scopes.foldl (fun settings placed ↦ settings.merge placed.scope.layer) root

end Chain

/-- The key of a named token of a chain. -/
def namedKey (chainKey name : String) : String :=
  chainKey ++ String.singleton Scope.namedSeparator ++ name

/-- Scopes that can be used together. -/
structure ScopeTree where
  scopes : List Scope
  isName : ∀ scope ∈ scopes, Scope.IsName scope.name
  nodup_names : (scopes.map Scope.name).Nodup
  valid : ∀ scope ∈ scopes, scope.layer.validate = .ok ()

namespace ScopeTree

/-- The first fault of one scope after scopes of the given names, if it has any. -/
def faultOf (names : List String) (scope : Scope) : Option ConfigFault :=
  if ¬Scope.IsName scope.name then some (.scopeNameInvalid scope.name)
  else if scope.name ∈ names then some (.scopeNameRepeated scope.name)
  else
    match scope.layer.validate with
    | .ok () => none
    | .error fault => some (.inScope scope.name fault)

/-- The first fault of a list of scopes after scopes of the given names. -/
def firstFault (names : List String) : List Scope → Option ConfigFault
  | [] => none
  | scope :: rest => (faultOf names scope).or (firstFault (scope.name :: names) rest)

theorem faultOf_eq_none_iff (names : List String) (scope : Scope) :
    faultOf names scope = none ↔
      Scope.IsName scope.name ∧ scope.name ∉ names ∧ scope.layer.validate = .ok () := by
  unfold faultOf
  split
  next hname => simp [hname]
  next hname =>
    split
    next hmem => simp [hmem]
    next hmem =>
      split
      next hvalid => simp_all
      next fault hvalid => simp [hvalid]

theorem firstFault_eq_none {names : List String} {scopes : List Scope}
    (hnone : firstFault names scopes = none) :
    (∀ scope ∈ scopes, Scope.IsName scope.name) ∧ (scopes.map Scope.name).Nodup ∧
      (∀ scope ∈ scopes, scope.name ∉ names) ∧
        ∀ scope ∈ scopes, scope.layer.validate = .ok () := by
  induction scopes generalizing names with
  | nil => simp
  | cons scope rest ih =>
    obtain ⟨hscope, hrest⟩ := Option.or_eq_none_iff.1 hnone
    obtain ⟨hname, hfresh, hvalid⟩ := (faultOf_eq_none_iff names scope).1 hscope
    obtain ⟨hnames, hnodup, hrestFresh, hrestValid⟩ := ih hrest
    refine ⟨?_, ?_, ?_, ?_⟩
    · exact List.forall_mem_cons.2 ⟨hname, hnames⟩
    · refine List.nodup_cons.2 ⟨fun hmem ↦ ?_, hnodup⟩
      obtain ⟨other, hother, heq⟩ := List.mem_map.1 hmem
      exact hrestFresh other hother (heq ▸ List.mem_cons_self)
    · exact List.forall_mem_cons.2
        ⟨hfresh, fun other hother h ↦ hrestFresh other hother (List.mem_cons_of_mem _ h)⟩
    · exact List.forall_mem_cons.2 ⟨hvalid, hrestValid⟩

/-- The tree of a list of scopes, or the first fault. -/
def ofList (scopes : List Scope) : Except ConfigFault ScopeTree :=
  match h : firstFault [] scopes with
  | some fault => .error fault
  | none =>
    .ok ⟨scopes, (firstFault_eq_none h).1, (firstFault_eq_none h).2.1,
      (firstFault_eq_none h).2.2.2⟩

/-- The scopes with their positions. -/
def placed (tree : ScopeTree) : List PlacedScope :=
  tree.scopes.zipIdx.map fun entry ↦ ⟨entry.2, entry.1⟩

/-- The scopes that cover a path, the less specific ones first, if there are any. -/
def chain (tree : ScopeTree) (path : String) : Except TokenError Chain :=
  match tree.placed.filter fun placed ↦ placed.scope.pattern.matches? path with
  | [] => .error (.noMatchingScope path)
  | covering => .ok ⟨covering.mergeSort PlacedScope.precedes⟩

end ScopeTree

end TokenMint
