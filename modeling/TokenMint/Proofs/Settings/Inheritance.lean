import TokenMint.Scope.Tree

/-!
# What layers make of root settings

Layers are laid over root settings one after the other. A field that layers override
(`Settings.Overrides`) has the value of the last layer that gives one, and the value of the root
settings if none does (`Settings.Overrides.foldl_merge`). Named tokens are collected in order. A
signing key comes down from the layer that sets it, or from the root settings, only if every layer
below passes it on, which a layer has to ask for (`Settings.signingKey_foldl_merge`). So a layer that
neither sets a key nor asks for one keeps away from the layers below it whatever stands above
(`Settings.signingKey_foldl_merge_of_blocks`). `Settings.inherits_foldl_merge` says all this of any
root settings and any layers.
-/

set_option autoImplicit false
set_option relaxedAutoImplicit false

namespace TokenMint

/-- What the last of several layers gives that give anything. -/
def lastGiven {α : Type} (given : Layer → Option α) (layers : List Layer) : Option α :=
  (layers.filterMap given).getLast?

theorem lastGiven_cons {α : Type} (given : Layer → Option α) (layer : Layer) (rest : List Layer) :
    lastGiven given (layer :: rest) = (lastGiven given rest).or (given layer) := by
  unfold lastGiven
  cases hgiven : given layer with
  | none => rw [List.filterMap_cons_none hgiven, Option.or_none]
  | some value =>
    rw [List.filterMap_cons_some hgiven, List.getLast?_cons]
    cases (rest.filterMap given).getLast? <;> rfl

namespace Layer

/-- Whether a layer hands a signing key from above on: it sets none and asks for the one above. -/
def PassesKey (layer : Layer) : Prop :=
  layer.signingKey = none ∧ layer.inheritsKey = some true

/-- Whether a layer hands no signing key on and sets none. -/
def BlocksKey (layer : Layer) : Prop :=
  layer.signingKey = none ∧ layer.inheritsKey ≠ some true

end Layer

namespace Settings

/-! ### Fields that layers override -/

/-- A layer replaces a field by the value of what it gives, and leaves the field alone if it gives
nothing. -/
def Overrides {α β : Type} (field : Settings → β) (given : Layer → Option α) (value : α → β) :
    Prop :=
  ∀ settings layer, field (settings.merge layer) = (given layer).elim (field settings) value

theorem Overrides.foldl_merge {α β : Type} {field : Settings → β} {given : Layer → Option α}
    {value : α → β} (hoverrides : Overrides field given value) (root : Settings)
    (layers : List Layer) :
    field (layers.foldl merge root) = (lastGiven given layers).elim (field root) value := by
  induction layers generalizing root with
  | nil => rfl
  | cons layer rest ih =>
    rw [List.foldl_cons, ih, hoverrides, lastGiven_cons]
    cases lastGiven given rest <;> rfl

/-- The usual case: the field takes what is given as it is. -/
theorem overrides_of_getD {α : Type} {field : Settings → α} {given : Layer → Option α}
    (hmerge : ∀ settings layer, field (settings.merge layer) = (given layer).getD (field settings)) :
    Overrides field given id := by
  intro settings layer
  rw [hmerge]
  cases given layer <;> rfl

theorem foldl_merge_of_getD {α : Type} {field : Settings → α} {given : Layer → Option α}
    (hmerge : ∀ settings layer, field (settings.merge layer) = (given layer).getD (field settings))
    (root : Settings) (layers : List Layer) :
    field (layers.foldl merge root) = (lastGiven given layers).getD (field root) := by
  rw [(overrides_of_getD hmerge).foldl_merge]
  cases lastGiven given layers <;> rfl

theorem overrides_alphabet :
    Overrides alphabet Layer.alphabet fun text ↦ (Alphabet.ofString text).toOption := by
  intro settings layer
  cases halphabet : layer.alphabet <;> simp [merge, mergeAlphabet, halphabet]

theorem overrides_onlyFor : Overrides onlyFor Layer.onlyFor some := by
  intro settings layer
  cases honlyFor : layer.onlyFor <;> simp [merge, honlyFor]

/-- An output takes the name that is given, unless the name is empty: then there is no output. -/
theorem mergeOutput_eq (output given : Option String) :
    mergeOutput output given =
      given.elim output fun name ↦ if name = "" then none else some name := by
  cases given <;> rfl

theorem overrides_outputHeader : Overrides outputHeader Layer.outputHeader
    fun name ↦ if name = "" then none else some name :=
  fun settings layer ↦ mergeOutput_eq settings.outputHeader layer.outputHeader

theorem overrides_outputVariable : Overrides outputVariable Layer.outputVariable
    fun name ↦ if name = "" then none else some name :=
  fun settings layer ↦ mergeOutput_eq settings.outputVariable layer.outputVariable

/-! ### Named tokens -/

theorem namedTokens_foldl_merge (root : Settings) (layers : List Layer) :
    (layers.foldl merge root).namedTokens =
      root.namedTokens ++ layers.flatMap Layer.namedTokens := by
  induction layers generalizing root with
  | nil => simp
  | cons layer rest ih =>
    rw [List.foldl_cons, ih, List.flatMap_cons, ← List.append_assoc]
    rfl

/-! ### The signing key -/

theorem signingKey_merge_eq_some_iff (settings : Settings) (layer : Layer) (key : SigningKey) :
    (settings.merge layer).signingKey = some key ↔
      layer.signingKey = some key ∨ layer.PassesKey ∧ settings.signingKey = some key := by
  have hmerge : (settings.merge layer).signingKey = mergeKey settings.signingKey layer := rfl
  rw [hmerge, mergeKey, Layer.PassesKey]
  cases layer.signingKey with
  | some own => simp
  | none => by_cases hasks : layer.inheritsKey = some true <;> simp [hasks]

/-- A key applies if it is set by a layer, or held by the root settings, and every layer below passes
it on. -/
theorem signingKey_foldl_merge (root : Settings) (layers : List Layer) (key : SigningKey) :
    (layers.foldl merge root).signingKey = some key ↔
      (∃ above layer below, layers = above ++ layer :: below ∧ layer.signingKey = some key ∧
        ∀ deeper ∈ below, deeper.PassesKey) ∨
      (∀ layer ∈ layers, layer.PassesKey) ∧ root.signingKey = some key := by
  induction layers generalizing root with
  | nil => simp
  | cons first rest ih =>
    rw [List.foldl_cons, ih, signingKey_merge_eq_some_iff, List.forall_mem_cons]
    constructor
    · rintro (⟨above, layer, below, rfl, hkey, hbelow⟩ | ⟨hrest, hkey | ⟨hfirst, hkey⟩⟩)
      · exact .inl ⟨first :: above, layer, below, rfl, hkey, hbelow⟩
      · exact .inl ⟨[], first, rest, rfl, hkey, hrest⟩
      · exact .inr ⟨⟨hfirst, hrest⟩, hkey⟩
    · rintro (⟨above, layer, below, hlayers, hkey, hbelow⟩ | ⟨⟨hfirst, hrest⟩, hkey⟩)
      · rcases List.cons_eq_append_iff.1 hlayers with ⟨rfl, hlayers⟩ | ⟨others, rfl, rfl⟩
        · obtain ⟨rfl, rfl⟩ := List.cons.inj hlayers
          exact .inr ⟨hbelow, .inl hkey⟩
        · exact .inl ⟨others, layer, below, rfl, hkey, hbelow⟩
      · exact .inr ⟨hrest, .inr ⟨hfirst, hkey⟩⟩

/-- A key that applies is set somewhere. -/
theorem exists_of_signingKey_foldl_merge {root : Settings} {layers : List Layer} {key : SigningKey}
    (hkey : (layers.foldl merge root).signingKey = some key) :
    (∃ layer ∈ layers, layer.signingKey = some key) ∨ root.signingKey = some key := by
  rcases (signingKey_foldl_merge root layers key).1 hkey with
    ⟨above, layer, below, rfl, hlayer, -⟩ | ⟨-, hroot⟩
  · exact .inl ⟨layer, List.mem_append_right _ List.mem_cons_self, hlayer⟩
  · exact .inr hroot

/-- Of the settings above, only the key matters for the key below. -/
theorem signingKey_foldl_merge_congr {first second : Settings}
    (hkey : first.signingKey = second.signingKey) (layers : List Layer) :
    (layers.foldl merge first).signingKey = (layers.foldl merge second).signingKey := by
  ext key
  rw [signingKey_foldl_merge, signingKey_foldl_merge, hkey]

/-- Below a layer that blocks keys, the key that applies is one that a layer below sets, and it is
the same whatever stands above. -/
theorem signingKey_foldl_merge_of_blocks {layer : Layer} (hblocks : layer.BlocksKey)
    (root : Settings) (above below : List Layer) :
    (∀ key, ((above ++ layer :: below).foldl merge root).signingKey = some key →
      ∃ deeper ∈ below, deeper.signingKey = some key) ∧
    ∀ other others, ((others ++ layer :: below).foldl merge other).signingKey =
      ((above ++ layer :: below).foldl merge root).signingKey := by
  have hnone (settings : Settings) : (settings.merge layer).signingKey = none := by
    rw [Option.eq_none_iff_forall_ne_some]
    intro key hkey
    rcases (signingKey_merge_eq_some_iff settings layer key).1 hkey with hown | ⟨hpasses, -⟩
    · exact Option.some_ne_none key (hown.symm.trans hblocks.1)
    · exact hblocks.2 hpasses.2
  simp only [List.foldl_append, List.foldl_cons]
  refine ⟨fun key hkey ↦ ?_, fun other others ↦ ?_⟩
  · rcases exists_of_signingKey_foldl_merge hkey with hbelow | habove
    · exact hbelow
    · exact absurd (habove.symm.trans (hnone _)) (Option.some_ne_none key)
  · exact signingKey_foldl_merge_congr ((hnone _).trans (hnone _).symm) below

/-! ### A layer among others -/

/-- What a layer gives counts in settings, unless one of the layers below it gives something. -/
structure Counts (layer : Layer) (below : List Layer) (settings : Settings) : Prop where
  field {α β : Type} {field : Settings → β} {given : Layer → Option α} {value : α → β}
    (hoverrides : Overrides field given value) {gift : α} (hgiven : given layer = some gift) :
    field settings = value ((lastGiven given below).getD gift)
  signingKey {own key : SigningKey} (hown : layer.signingKey = some own)
    (hkey : settings.signingKey = some key) :
    key = own ∨ ∃ deeper ∈ below, deeper.signingKey = some key

theorem counts_foldl_merge (root : Settings) (above : List Layer) (layer : Layer)
    (below : List Layer) : Counts layer below ((above ++ layer :: below).foldl merge root) := by
  rw [List.foldl_append, List.foldl_cons]
  constructor
  · intro α β field given value hoverrides gift hgiven
    rw [hoverrides.foldl_merge, hoverrides, hgiven]
    cases lastGiven given below <;> rfl
  · intro own key hown hkey
    rcases exists_of_signingKey_foldl_merge hkey with hbelow | habove
    · exact .inr hbelow
    · rcases (signingKey_merge_eq_some_iff _ layer key).1 habove with hlayer | ⟨hpasses, -⟩
      · exact .inl (Option.some.inj (hlayer.symm.trans hown))
      · exact absurd (hpasses.1.symm.trans hown) (Option.some_ne_none own).symm

/-! ### All fields -/

/-- What root settings have become under layers, of which the first is laid down first. -/
structure Inherits (root : Settings) (layers : List Layer) (settings : Settings) : Prop where
  format : settings.format = (lastGiven Layer.format layers).getD root.format
  /-- A text that is no alphabet leaves none. -/
  alphabet : settings.alphabet =
    (lastGiven Layer.alphabet layers).elim root.alphabet
      fun text ↦ (Alphabet.ofString text).toOption
  /-- The alphabet of a text is the one with its characters, in order. -/
  alphabet_eq_some_iff {text : String} (hgiven : lastGiven Layer.alphabet layers = some text)
    (alphabet : Alphabet) : settings.alphabet = some alphabet ↔ alphabet.chars = text.toList
  grouping : settings.grouping = (lastGiven Layer.grouping layers).getD root.grouping
  length : settings.length = (lastGiven Layer.length layers).getD root.length
  ttl : settings.ttl = (lastGiven Layer.ttl layers).getD root.ttl
  textBefore : settings.textBefore = (lastGiven Layer.textBefore layers).getD root.textBefore
  textAfter : settings.textAfter = (lastGiven Layer.textAfter layers).getD root.textAfter
  count : settings.count = (lastGiven Layer.count layers).getD root.count
  timestamped : settings.timestamped = (lastGiven Layer.timestamped layers).getD root.timestamped
  signed : settings.signed = (lastGiven Layer.signed layers).getD root.signed
  /-- A key applies if every layer below where it is set passes it on. -/
  signingKey (key : SigningKey) : settings.signingKey = some key ↔
    (∃ above layer below, layers = above ++ layer :: below ∧ layer.signingKey = some key ∧
      ∀ deeper ∈ below, deeper.PassesKey) ∨
    (∀ layer ∈ layers, layer.PassesKey) ∧ root.signingKey = some key
  /-- Below a layer that blocks keys, nothing above it matters for the key. -/
  blocked {above below : List Layer} {layer : Layer} (hlayers : layers = above ++ layer :: below)
    (hblocks : layer.BlocksKey) :
    (∀ key, settings.signingKey = some key → ∃ deeper ∈ below, deeper.signingKey = some key) ∧
    ∀ other others, ((others ++ layer :: below).foldl merge other).signingKey = settings.signingKey
  expiry : settings.expiry = (lastGiven Layer.expiry layers).getD root.expiry
  enabled : settings.enabled = (lastGiven Layer.enabled layers).getD root.enabled
  onlyFor : settings.onlyFor = (lastGiven Layer.onlyFor layers).or root.onlyFor
  /-- An empty name leaves none. -/
  outputHeader : settings.outputHeader =
    (lastGiven Layer.outputHeader layers).elim root.outputHeader
      fun name ↦ if name = "" then none else some name
  outputVariable : settings.outputVariable =
    (lastGiven Layer.outputVariable layers).elim root.outputVariable
      fun name ↦ if name = "" then none else some name
  namedTokens : settings.namedTokens = root.namedTokens ++ layers.flatMap Layer.namedTokens

/-- Every field of settings under layers is what the layers and the root settings make of it. -/
theorem inherits_foldl_merge (root : Settings) (layers : List Layer) :
    Inherits root layers (layers.foldl merge root) where
  format := foldl_merge_of_getD (fun _ _ ↦ rfl) root layers
  alphabet := overrides_alphabet.foldl_merge root layers
  alphabet_eq_some_iff := by
    intro text hgiven alphabet
    rw [overrides_alphabet.foldl_merge, hgiven, Option.elim_some, ← Alphabet.ofString_eq_ok_iff]
    cases Alphabet.ofString text <;> simp [Except.toOption]
  grouping := foldl_merge_of_getD (fun _ _ ↦ rfl) root layers
  length := foldl_merge_of_getD (fun _ _ ↦ rfl) root layers
  ttl := foldl_merge_of_getD (fun _ _ ↦ rfl) root layers
  textBefore := foldl_merge_of_getD (fun _ _ ↦ rfl) root layers
  textAfter := foldl_merge_of_getD (fun _ _ ↦ rfl) root layers
  count := foldl_merge_of_getD (fun _ _ ↦ rfl) root layers
  timestamped := foldl_merge_of_getD (fun _ _ ↦ rfl) root layers
  signed := foldl_merge_of_getD (fun _ _ ↦ rfl) root layers
  signingKey := signingKey_foldl_merge root layers
  blocked := by
    rintro above below layer rfl hblocks
    exact signingKey_foldl_merge_of_blocks hblocks root above below
  expiry := foldl_merge_of_getD (fun _ _ ↦ rfl) root layers
  enabled := foldl_merge_of_getD (fun _ _ ↦ rfl) root layers
  onlyFor := by
    rw [overrides_onlyFor.foldl_merge]
    cases lastGiven Layer.onlyFor layers <;> rfl
  outputHeader := overrides_outputHeader.foldl_merge root layers
  outputVariable := overrides_outputVariable.foldl_merge root layers
  namedTokens := namedTokens_foldl_merge root layers

/-- Asking for a key is not handed down: the layer below has to ask again. -/
example (root : Settings) (key : SigningKey) :
    ([{ Layer.empty with signingKey := some key }, { Layer.empty with inheritsKey := some true },
      Layer.empty].foldl merge root).signingKey = none := rfl

end Settings

/-! ### The settings of a chain -/

namespace Chain

/-- The layers of the scopes. -/
def layers (chain : Chain) : List Layer :=
  chain.scopes.map fun placed ↦ placed.scope.layer

theorem settings_eq_foldl (chain : Chain) (root : Settings) :
    chain.settings root = chain.layers.foldl Settings.merge root :=
  List.foldl_map.symm

/-- The named tokens of a chain are those of the root settings and of the layers of its scopes. -/
theorem mem_namedTokens_settings (chain : Chain) (root : Settings) (token : NamedToken) :
    token ∈ (chain.settings root).namedTokens ↔
      token ∈ root.namedTokens ∨
        ∃ placed ∈ chain.scopes, token ∈ placed.scope.layer.namedTokens := by
  rw [settings_eq_foldl, Settings.namedTokens_foldl_merge, layers, List.flatMap_map,
    List.mem_append, List.mem_flatMap]

end Chain

end TokenMint
