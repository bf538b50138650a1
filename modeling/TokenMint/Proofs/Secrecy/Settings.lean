import TokenMint.Engine
import TokenMint.Engine.Request

/-!
# Configurations with their keys masked

Masking puts one and the same key in the place of every signing key. Whether there is a key stays to
be seen, its bytes do not; so scopes that differ only in the bytes of their keys are the same scopes
once they are masked. Nothing that a configuration is asked for takes notice: masking goes through
the layering of settings (`Chain.masked_settings`), through the choice of the scopes that cover a
path (`ScopeTree.chain_masked`) and through the building of an engine (`Engine.build_masked`), and
masked settings are accepted, warned of and summed up as before (`Settings.validate_masked`,
`Settings.warnings_masked`, `Settings.summary_masked`).
-/

set_option autoImplicit false
set_option relaxedAutoImplicit false

namespace TokenMint

/-- The key that stands for any key. -/
def SigningKey.mask : SigningKey :=
  ⟨[0], by decide⟩

/-! ### Layers and settings -/

/-- The layer with its key masked. -/
def Layer.masked (layer : Layer) : Layer :=
  { layer with signingKey := layer.signingKey.map fun _ ↦ .mask }

namespace Settings

/-- The settings with their key masked. -/
def masked (settings : Settings) : Settings :=
  { settings with signingKey := settings.signingKey.map fun _ ↦ .mask }

theorem masked_of_signingKey {settings : Settings} (hkey : settings.signingKey = none) :
    settings.masked = settings := by
  cases settings
  obtain rfl := hkey
  rfl

theorem masked_merge (settings : Settings) (layer : Layer) :
    (settings.merge layer).masked = settings.masked.merge layer.masked := by
  have hkey : (mergeKey settings.signingKey layer).map (fun _ ↦ SigningKey.mask) =
      mergeKey settings.masked.signingKey layer.masked := by
    unfold mergeKey Layer.masked masked
    cases layer.signingKey with
    | some own => rfl
    | none => cases hinherits : layer.inheritsKey == some true <;> simp_all
  unfold masked at hkey ⊢
  simp only [merge, hkey]
  rfl

/-- Settings are refused for lack of a key, but not for any key. -/
theorem validate_masked (settings : Settings) : settings.masked.validate = settings.validate := by
  have hkey : refuseIf settings.masked.LacksKey .signingKeyMissing =
      refuseIf settings.LacksKey .signingKeyMissing := by
    have hlacks : settings.masked.LacksKey ↔ settings.LacksKey := by simp [LacksKey, masked]
    simp only [refuseIf, hlacks]
  unfold validate
  rw [hkey]
  rfl

theorem warnings_masked (settings : Settings) : settings.masked.warnings = settings.warnings := rfl

theorem summary_masked (settings : Settings) : settings.masked.summary = settings.summary := rfl

theorem admits_masked (settings : Settings) (path : String) :
    settings.masked.admits path = settings.admits path := rfl

end Settings

/-! ### Scopes and chains -/

/-- The scope with its key masked. -/
def Scope.masked (scope : Scope) : Scope :=
  { scope with layer := scope.layer.masked }

/-- The scope at the same position with its key masked. -/
def PlacedScope.masked (placed : PlacedScope) : PlacedScope :=
  { placed with scope := placed.scope.masked }

namespace Chain

/-- The chain with all its keys masked. -/
def masked (chain : Chain) : Chain :=
  ⟨chain.scopes.map PlacedScope.masked⟩

theorem key_masked (chain : Chain) : chain.masked.key = chain.key := by
  simp only [key, masked, List.map_map]
  rfl

theorem indices_masked (chain : Chain) : chain.masked.indices = chain.indices := by
  simp only [indices, masked, List.map_map]
  rfl

theorem masked_settings (chain : Chain) (root : Settings) :
    (chain.settings root).masked = chain.masked.settings root.masked := by
  unfold settings masked
  rw [List.foldl_map]
  exact (List.foldl_hom Settings.masked fun settings placed ↦
    (Settings.masked_merge settings placed.scope.layer).symm).symm

end Chain

namespace ScopeTree

theorem firstFault_masked (names : List String) (scopes : List Scope) :
    firstFault names (scopes.map Scope.masked) = firstFault names scopes := by
  induction scopes generalizing names with
  | nil => rfl
  | cons scope rest ih =>
    -- A fault lies in the name or in a bound of the layer, and masking keeps both.
    exact congrArg (faultOf names scope).or (ih (scope.name :: names))

/-- The tree with all its keys masked. -/
def masked (tree : ScopeTree) : ScopeTree where
  scopes := tree.scopes.map Scope.masked
  isName := List.forall_mem_map.2 tree.isName
  nodup_names := by
    have hnames : Scope.name ∘ Scope.masked = Scope.name := rfl
    rw [List.map_map, hnames]
    exact tree.nodup_names
  valid := List.forall_mem_map.2 tree.valid

theorem ofList_masked (scopes : List Scope) :
    ofList (scopes.map Scope.masked) = (ofList scopes).map masked := by
  have hfault := firstFault_masked [] scopes
  unfold ofList
  split
  next fault hmasked =>
    split
    next other hplain =>
      obtain rfl := Option.some.inj (hmasked.symm.trans (hfault.trans hplain))
      rfl
    next hplain => simp [hfault, hplain] at hmasked
  next hmasked =>
    split
    next other hplain => simp [hfault, hplain] at hmasked
    next hplain => rfl

theorem placed_masked (tree : ScopeTree) :
    tree.masked.placed = tree.placed.map PlacedScope.masked := by
  simp only [placed, masked, List.zipIdx_map, List.map_map]
  rfl

/-- The scopes that cover a path, and their order, have nothing to do with keys. -/
theorem chain_masked (tree : ScopeTree) (path : String) :
    tree.masked.chain path = (tree.chain path).map Chain.masked := by
  have hcovering : tree.masked.placed.filter (fun placed ↦ placed.scope.pattern.matches? path) =
      (tree.placed.filter fun placed ↦ placed.scope.pattern.matches? path).map
        PlacedScope.masked := by
    rw [placed_masked, List.filter_map]
    rfl
  unfold chain
  rw [hcovering]
  cases tree.placed.filter fun placed ↦ placed.scope.pattern.matches? path with
  | nil => rfl
  | cons first rest =>
    have hsorted : ((first :: rest).mergeSort PlacedScope.precedes).map PlacedScope.masked =
        ((first :: rest).map PlacedScope.masked).mergeSort PlacedScope.precedes :=
      List.map_mergeSort fun _ _ _ _ ↦ rfl
    exact congrArg (fun scopes ↦ Except.ok (Chain.mk scopes)) hsorted.symm

end ScopeTree

/-! ### Engines -/

namespace Engine

/-- The engine with the keys of all its scopes masked. Root settings have no key. -/
def masked (engine : Engine) : Engine :=
  { engine with tree := engine.tree.masked }

theorem masked_root (engine : Engine) : engine.root.masked = engine.root :=
  Settings.masked_of_signingKey engine.root_key

theorem chain_masked (engine : Engine) (path : String) :
    engine.masked.tree.chain path = (engine.tree.chain path).map Chain.masked :=
  engine.tree.chain_masked path

theorem settings_masked (engine : Engine) (chain : Chain) :
    chain.masked.settings engine.masked.root = (chain.settings engine.root).masked := by
  rw [chain.masked_settings, engine.masked_root]
  rfl

theorem build_masked (scopes : List Scope) (root : Settings) (source : EntropySource) :
    build (scopes.map Scope.masked) root source = (build scopes root source).map masked := by
  unfold build
  rw [ScopeTree.ofList_masked]
  cases ScopeTree.ofList scopes with
  | error fault => rfl
  | ok tree =>
    simp only [Except.map]
    split
    · split <;> rfl
    · rfl

theorem openingNotices_masked (engine : Engine) :
    engine.masked.openingNotices = engine.openingNotices := by
  have hempty : engine.masked.tree.scopes.isEmpty = engine.tree.scopes.isEmpty :=
    List.isEmpty_map
  simp only [openingNotices, hempty]
  rfl

end Engine

end TokenMint
