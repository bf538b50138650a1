import TokenMint.Proofs.Settings.Options

/-!
# What merged settings can lack

Root settings are validated, and so is every layer of a tree. Each bound that merged settings must
keep is then kept by whatever gives the field last, a layer or the root settings
(`holds_of_lastGiven`). A text that is no alphabet would leave none behind, but no layer
that was accepted gives one, so an alphabet is never lost (`Settings.text_alphabet_foldl_merge`).
What can go wrong is only that something is not there at all, or that there are too many named
tokens: `Chain.Lacks` lists the cases, and `ScopeTree.merged_settings_lack_or_pass` says that
validation refuses the settings of a chain in these cases and in no other one.
-/

set_option autoImplicit false
set_option relaxedAutoImplicit false

namespace TokenMint

/-! ### What layers give -/

theorem exists_of_lastGiven_eq_some {α : Type} {given : Layer → Option α} {layers : List Layer}
    {value : α} (hlast : lastGiven given layers = some value) :
    ∃ layer ∈ layers, given layer = some value :=
  List.mem_filterMap.1 (List.mem_of_getLast? hlast)

theorem lastGiven_eq_none_iff {α : Type} {given : Layer → Option α} {layers : List Layer} :
    lastGiven given layers = none ↔ ∀ layer ∈ layers, given layer = none := by
  rw [lastGiven, List.getLast?_eq_none_iff, List.filterMap_eq_nil_iff]

/-- What holds of a value and of all values that layers give holds of the one given last, or of the
value if no layer gives one. -/
theorem holds_of_lastGiven {α : Type} {P : α → Prop} {given : Layer → Option α}
    {layers : List Layer} {value : α} (hvalue : P value)
    (hlayers : ∀ layer ∈ layers, ∀ gift ∈ given layer, P gift) :
    P ((lastGiven given layers).getD value) := by
  cases hlast : lastGiven given layers with
  | none => exact hvalue
  | some gift =>
    obtain ⟨layer, hlayer, hgiven⟩ := exists_of_lastGiven_eq_some hlast
    exact hlayers layer hlayer gift hgiven

namespace Settings

/-- A layer that was accepted has its alphabet taken over. -/
theorem text_alphabet_merge {layer : Layer} (hvalid : layer.IsValid) (settings : Settings) :
    (settings.merge layer).alphabet.map Alphabet.text =
      layer.alphabet.or (settings.alphabet.map Alphabet.text) := by
  rw [overrides_alphabet]
  cases hgiven : layer.alphabet with
  | none => rfl
  | some text =>
    have haccepted := hvalid.alphabet text hgiven
    cases hread : Alphabet.ofString text with
    | error fault =>
      simp [Layer.checkAlphabet, hread, Except.map] at haccepted
    | ok alphabet =>
      rw [Option.elim_some, hread]
      exact congrArg some (Alphabet.text_of_ofString hread)

/-- The alphabet is the one that was given last. -/
theorem text_alphabet_foldl_merge {layers : List Layer} (hvalid : ∀ layer ∈ layers, layer.IsValid)
    (root : Settings) :
    (layers.foldl merge root).alphabet.map Alphabet.text =
      (lastGiven Layer.alphabet layers).or (root.alphabet.map Alphabet.text) := by
  induction layers generalizing root with
  | nil => rfl
  | cons layer rest ih =>
    obtain ⟨hlayer, hrest⟩ := List.forall_mem_cons.1 hvalid
    rw [List.foldl_cons, ih hrest, text_alphabet_merge hlayer, lastGiven_cons, Option.or_assoc]

end Settings

/-! ### Chains -/

namespace Chain

/-- The named tokens that the root settings and the layers of a chain declare. -/
def declared (chain : Chain) (root : Settings) : List NamedToken :=
  root.namedTokens ++ chain.layers.flatMap Layer.namedTokens

/-- Whether there is an alphabet in the root settings or in a layer. -/
def HasAlphabet (chain : Chain) (root : Settings) : Prop :=
  root.alphabet ≠ none ∨ ∃ layer ∈ chain.layers, layer.alphabet ≠ none

/-- Whether a signing key reaches the last scope: a layer sets it or the root settings hold it, and
every layer below passes it on. -/
def KeyArrives (chain : Chain) (root : Settings) (key : SigningKey) : Prop :=
  (∃ above layer below, chain.layers = above ++ layer :: below ∧ layer.signingKey = some key ∧
    ∀ deeper ∈ below, deeper.PassesKey) ∨
  (∀ layer ∈ chain.layers, layer.PassesKey) ∧ root.signingKey = some key

/-- What is missing from the settings of a chain. -/
inductive Lacks (chain : Chain) (root : Settings) : Prop where
  /-- The format is custom, and there is no alphabet. -/
  | alphabet (hcustom : (chain.settings root).format = .custom) (hnone : ¬chain.HasAlphabet root)
  /-- Tokens are to be signed, and no key arrives. -/
  | key (hsigned : (chain.settings root).signed = true) (hnone : ∀ key, ¬chain.KeyArrives root key)
  /-- There is no room for so many named tokens. -/
  | room (hmany : 50 < (chain.declared root).length)
  /-- A named token is custom, and there is no alphabet. -/
  | namedAlphabet {token : NamedToken} (htoken : token ∈ chain.declared root)
    (hcustom : token.format.getD (chain.settings root).format = .custom)
    (hnone : ¬chain.HasAlphabet root)

/-- No alphabet is lost: the one that a layer sets is taken over, whatever was there before, and the
one that was set last applies, or the one of the root settings. -/
structure KeepsAlphabets (chain : Chain) (root : Settings) : Prop where
  taken : ∀ layer ∈ chain.layers, ∀ text ∈ layer.alphabet, ∀ settings : Settings,
    (settings.merge layer).alphabet.map Alphabet.text = some text
  last : (chain.settings root).alphabet.map Alphabet.text =
    (lastGiven Layer.alphabet chain.layers).or (root.alphabet.map Alphabet.text)

theorem namedTokens_settings (chain : Chain) (root : Settings) :
    (chain.settings root).namedTokens = chain.declared root := by
  rw [settings_eq_foldl, Settings.namedTokens_foldl_merge, declared]

theorem signingKey_settings (chain : Chain) (root : Settings) (key : SigningKey) :
    (chain.settings root).signingKey = some key ↔ chain.KeyArrives root key := by
  rw [settings_eq_foldl, Settings.signingKey_foldl_merge, KeyArrives]

theorem lacksKey_settings_iff (chain : Chain) (root : Settings) :
    (chain.settings root).LacksKey ↔
      (chain.settings root).signed = true ∧ ∀ key, ¬chain.KeyArrives root key := by
  rw [Settings.LacksKey, Option.eq_none_iff_forall_ne_some]
  simp only [ne_eq, signingKey_settings]

variable {chain : Chain} {root : Settings}

theorem keepsAlphabets (hvalid : ∀ layer ∈ chain.layers, layer.IsValid) :
    chain.KeepsAlphabets root where
  taken layer hlayer text htext settings := by
    rw [Settings.text_alphabet_merge (hvalid layer hlayer), Option.mem_def.1 htext]
    rfl
  last := by
    rw [settings_eq_foldl]
    exact Settings.text_alphabet_foldl_merge hvalid root

theorem KeepsAlphabets.alphabet_eq_none_iff (hkeeps : chain.KeepsAlphabets root) :
    (chain.settings root).alphabet = none ↔ ¬chain.HasAlphabet root := by
  rw [← Option.map_eq_none_iff, hkeeps.last, Option.or_eq_none_iff, lastGiven_eq_none_iff,
    Option.map_eq_none_iff, HasAlphabet, and_comm]
  simp

/-- The bounds of a number are kept, whichever layer gives it. -/
theorem holds_settings {bounds : Bounds} {field : Settings → Nat} {given : Layer → Option Nat}
    (hmerge : ∀ settings layer, field (settings.merge layer) = (given layer).getD (field settings))
    (hroot : bounds.Holds (field root))
    (hlayers : ∀ layer ∈ chain.layers, ∀ gift ∈ given layer, bounds.Holds gift) :
    bounds.Holds (field (chain.settings root)) := by
  rw [settings_eq_foldl, Settings.foldl_merge_of_getD hmerge]
  exact holds_of_lastGiven hroot hlayers

/-- What the parts of merged settings keep to, if they were accepted on their own. -/
structure KeepsBounds (chain : Chain) (root : Settings) : Prop where
  length : Bounds.length.Holds (chain.settings root).length
  count : Bounds.count.Holds (chain.settings root).count

theorem keepsBounds (hroot : root.IsValid) (hvalid : ∀ layer ∈ chain.layers, layer.IsValid) :
    chain.KeepsBounds root where
  length := holds_settings (fun _ _ ↦ rfl) hroot.length fun layer hlayer ↦
    (hvalid layer hlayer).length
  count := holds_settings (fun _ _ ↦ rfl) hroot.count fun layer hlayer ↦
    (hvalid layer hlayer).count

/-- Settings that keep to the bounds are accepted unless something is missing. -/
theorem isValid_of_not_lacks (halphabets : chain.KeepsAlphabets root)
    (hbounds : chain.KeepsBounds root) (hlacks : ¬chain.Lacks root) :
    (chain.settings root).IsValid where
  length := hbounds.length
  alphabet := fun ⟨hcustom, hnone⟩ ↦
    hlacks (.alphabet hcustom (halphabets.alphabet_eq_none_iff.1 hnone))
  key := fun hkey ↦
    have ⟨hsigned, hnone⟩ := (chain.lacksKey_settings_iff root).1 hkey
    hlacks (.key hsigned hnone)
  count := hbounds.count
  namedCount := by
    rw [namedTokens_settings]
    exact Nat.le_of_not_lt fun hmany ↦ hlacks (.room hmany)
  namedAlphabet := by
    rintro token htoken ⟨hcustom, hnone⟩
    rw [namedTokens_settings] at htoken
    exact hlacks (.namedAlphabet htoken hcustom (halphabets.alphabet_eq_none_iff.1 hnone))

/-- Settings from which something is missing are refused. -/
theorem not_isValid_of_lacks (halphabets : chain.KeepsAlphabets root) (hlacks : chain.Lacks root) :
    ¬(chain.settings root).IsValid := by
  intro hvalid
  cases hlacks with
  | alphabet hcustom hnone =>
    exact hvalid.alphabet ⟨hcustom, halphabets.alphabet_eq_none_iff.2 hnone⟩
  | key hsigned hnone =>
    exact hvalid.key ((chain.lacksKey_settings_iff root).2 ⟨hsigned, hnone⟩)
  | room hmany =>
    have hroom := hvalid.namedCount
    rw [namedTokens_settings] at hroom
    exact Nat.not_le_of_lt hmany hroom
  | @namedAlphabet token htoken hcustom hnone =>
    rw [← namedTokens_settings] at htoken
    exact hvalid.namedAlphabet token htoken ⟨hcustom, halphabets.alphabet_eq_none_iff.2 hnone⟩

end Chain

/-- The layers of a chain were accepted when the tree was built. -/
theorem ScopeTree.isValid_layers {tree : ScopeTree} {path : String} {chain : Chain}
    (hchain : tree.chain path = .ok chain) : ∀ layer ∈ chain.layers, layer.IsValid := by
  intro layer hlayer
  obtain ⟨placed, hplaced, rfl⟩ := List.mem_map.1 hlayer
  exact (Layer.validate_eq_ok_iff _).1
    (tree.valid placed.scope (mem_scopes_of_mem_chain hchain hplaced))

/-- Settings that are merged of accepted parts keep every alphabet and all bounds, and they are
refused exactly if something is missing from them. -/
theorem ScopeTree.merged_settings_lack_or_pass {tree : ScopeTree} {root : Settings}
    (hroot : root.validate = .ok ()) {path : String} {chain : Chain}
    (hchain : tree.chain path = .ok chain) :
    chain.KeepsAlphabets root ∧ chain.KeepsBounds root ∧
      ((chain.settings root).validate ≠ .ok () ↔ chain.Lacks root) := by
  have hvalid := isValid_layers hchain
  have halphabets : chain.KeepsAlphabets root := Chain.keepsAlphabets hvalid
  have hbounds := Chain.keepsBounds ((Settings.validate_eq_ok_iff root).1 hroot) hvalid
  refine ⟨halphabets, hbounds, ?_⟩
  rw [ne_eq, Settings.validate_eq_ok_iff]
  constructor
  · exact fun hinvalid ↦ Classical.byContradiction fun hlacks ↦
      hinvalid (Chain.isValid_of_not_lacks halphabets hbounds hlacks)
  · exact Chain.not_isValid_of_lacks halphabets

/-- A tree whose inner scope replaces the alphabet of the outer one and asks for signatures without
a key. -/
def keylessScope : ScopeTree where
  scopes := [
    ⟨"outer", .location "/", { Layer.empty with format := some .custom, alphabet := some "ab" }⟩,
    ⟨"inner", .location "/a", { Layer.empty with alphabet := some "cd", signed := some true }⟩]
  isName := by decide
  nodup_names := by decide
  valid := by
    simp only [List.forall_mem_cons]
    exact ⟨rfl, rfl, List.forall_mem_nil _⟩

/-- The alphabet of the inner scope applies, and it is the key that is missing. -/
theorem ScopeTree.merged_settings_lack_or_pass_keyless :
    Settings.standard.validate = .ok () ∧ ∃ chain, keylessScope.chain "/a" = .ok chain ∧
      (chain.settings .standard).alphabet.map Alphabet.text = some "cd" ∧
      chain.KeepsBounds .standard ∧ chain.Lacks .standard ∧
      (chain.settings .standard).validate = .error .signingKeyMissing := by
  let outer : PlacedScope :=
    ⟨0, "outer", .location "/", { Layer.empty with format := some .custom, alphabet := some "ab" }⟩
  let inner : PlacedScope :=
    ⟨1, "inner", .location "/a", { Layer.empty with alphabet := some "cd", signed := some true }⟩
  have hchain : keylessScope.chain "/a" = .ok ⟨[outer, inner]⟩ :=
    (keylessScope.chain_eq_ok_iff _ _).2 ⟨by decide, by decide +kernel, by decide +kernel⟩
  have hfault : (Chain.settings ⟨[outer, inner]⟩ .standard).validate =
      .error .signingKeyMissing := rfl
  obtain ⟨halphabets, hbounds, hlacks⟩ :=
    merged_settings_lack_or_pass Settings.validate_standard hchain
  exact ⟨Settings.validate_standard, _, hchain, halphabets.last, hbounds,
    hlacks.1 (hfault ▸ nofun), hfault⟩

end TokenMint
