import TokenMint.Proofs.Scope.Key
import TokenMint.Proofs.Settings.Inheritance

/-!
# Valid settings

A check that runs several checks one after the other passes if each of them does. So what
`NamedToken.validate`, `Layer.validate` and `Settings.validate` accept can be read off as a list of
conditions: `NamedToken.validate_eq_ok_iff`, and `Settings.IsValid` for settings
(`Settings.validate_eq_ok_iff`).

The settings of a named token of valid settings can only go wrong in the length that the token
itself gives (`Settings.IsValid.named`). Scopes cannot declare a length out of bounds, because their
layers are validated, and so the settings of all named tokens of a chain are valid if the lengths
that the root settings declare are within bounds (`ScopeTree.isValid_named`).
-/

set_option autoImplicit false
set_option relaxedAutoImplicit false

namespace TokenMint

/-! ### Checks one after the other -/

theorem bind_eq_ok_iff {ε : Type} (first : Except ε Unit) (next : Unit → Except ε Unit) :
    (first >>= next) = .ok () ↔ first = .ok () ∧ next () = .ok () := by
  cases first <;> simp [bind, Except.bind]

theorem forM_eq_ok_iff {ε α : Type} (check : α → Except ε Unit) (items : List α) :
    items.forM check = .ok () ↔ ∀ item ∈ items, check item = .ok () := by
  induction items with
  | nil => simp [pure, Except.pure]
  | cons item rest ih =>
    rw [List.forM_eq_forM, List.forM_cons, bind_eq_ok_iff, List.forall_mem_cons, ← ih,
      List.forM_eq_forM]

/-! ### Named tokens -/

namespace NamedToken

theorem within_eq_ok_iff (name : String) (check : Except ConfigFault Unit) :
    within name check = .ok () ↔ check = .ok () := by
  cases check with
  | error fault => exact iff_of_false nofun nofun
  | ok accepted => exact iff_of_true rfl rfl

theorem checkName_eq_ok_iff (name : String) : checkName name = .ok () ↔ IsVariableName name := by
  by_cases h : IsVariableName name <;> simp [checkName, h]

/-- A named token is accepted if its name is proper and what it gives is within bounds. -/
theorem validate_eq_ok_iff (token : NamedToken) :
    token.validate = .ok () ↔
      IsVariableName token.name ∧ (∀ length ∈ token.length, Bounds.length.Holds length) ∧
        ∀ ttl ∈ token.ttl, ¬Duration.ofSeconds maxLifetime < ttl := by
  simp [validate, bind_eq_ok_iff, within_eq_ok_iff, checkName_eq_ok_iff, checkGiven_eq_ok_iff,
    checkNumber_eq_ok_iff, checkLifetime_eq_ok_iff]

end NamedToken

/-- An accepted layer declares only named tokens that are accepted. -/
theorem Layer.validate_namedToken {layer : Layer} (hvalid : layer.validate = .ok ()) :
    ∀ token ∈ layer.namedTokens, token.validate = .ok () := by
  simp only [validate, bind_eq_ok_iff, forM_eq_ok_iff] at hvalid
  exact hvalid.2.2.2.2.2.2.2

/-! ### Settings -/

namespace Settings

/-- What settings must meet to be accepted. -/
structure IsValid (settings : Settings) : Prop where
  length : Bounds.length.Holds settings.length
  alphabet : ¬settings.LacksAlphabet
  key : ¬settings.LacksKey
  count : Bounds.count.Holds settings.count
  namedCount : settings.namedTokens.length ≤ maxNamedTokens
  /-- Every named token that is custom has an alphabet. -/
  namedAlphabet : ∀ token ∈ settings.namedTokens, ¬(settings.named token).LacksAlphabet

theorem validate_eq_ok_iff (settings : Settings) :
    settings.validate = .ok () ↔ settings.IsValid := by
  simp only [validate, bind_eq_ok_iff, checkNumber_eq_ok_iff, refuseIf_eq_ok_iff, forM_eq_ok_iff,
    Nat.not_lt]
  constructor
  · rintro ⟨hlength, halphabet, hkey, hcount, hnamedCount, hnamedAlphabet⟩
    exact ⟨hlength, halphabet, hkey, hcount, hnamedCount, hnamedAlphabet⟩
  · rintro ⟨hlength, halphabet, hkey, hcount, hnamedCount, hnamedAlphabet⟩
    exact ⟨hlength, halphabet, hkey, hcount, hnamedCount, hnamedAlphabet⟩

/-- An engine can be built on the standard settings: they are accepted and hold no key. -/
theorem validate_standard : standard.validate = .ok () := rfl

theorem signingKey_standard : standard.signingKey = none := rfl

/-- The settings of a named token are valid unless its own length is out of bounds. -/
theorem IsValid.named {settings : Settings} (hvalid : settings.IsValid) {token : NamedToken}
    (htoken : token ∈ settings.namedTokens)
    (hlength : ∀ length ∈ token.length, Bounds.length.Holds length) :
    (settings.named token).IsValid where
  length := by
    show Bounds.length.Holds (token.length.getD settings.length)
    cases hgiven : token.length with
    | none => exact hvalid.length
    | some length => exact hlength length hgiven
  alphabet := hvalid.namedAlphabet token htoken
  key := hvalid.key
  count := by
    show Bounds.count.Holds 1
    decide
  namedCount := Nat.zero_le _
  namedAlphabet := by simp [Settings.named]

end Settings

/-! ### Settings of a chain -/

/-- The settings of the named tokens of a chain are valid with those of the chain, if the root
settings keep to the bounds that the layers of scopes are held to. -/
theorem ScopeTree.isValid_named {tree : ScopeTree} {path : String} {chain : Chain}
    (hchain : tree.chain path = .ok chain) {root : Settings}
    (hroot : ∀ token ∈ root.namedTokens, ∀ length ∈ token.length, Bounds.length.Holds length)
    (hvalid : (chain.settings root).IsValid) {token : NamedToken}
    (htoken : token ∈ (chain.settings root).namedTokens) :
    ((chain.settings root).named token).IsValid := by
  refine hvalid.named htoken ?_
  rcases (chain.mem_namedTokens_settings root token).1 htoken with
    hroots | ⟨placed, hplaced, hlayer⟩
  · exact hroot token hroots
  · have haccepted := Layer.validate_namedToken
      (tree.valid placed.scope (mem_scopes_of_mem_chain hchain hplaced)) token hlayer
    exact (token.validate_eq_ok_iff.1 haccepted).2.1

end TokenMint
