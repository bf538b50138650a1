import Mathlib.Data.List.Induction
import Mathlib.Data.List.Perm.Basic
import TokenMint.Proofs.Settings.Options

/-!
# Options of different names do not interfere

What an option finds and what it changes is one field of the layer, the one of its name. So what is
answered to the options of one name, and what they leave in their field, is the same if all other
options are left out (`Layer.alone_of_sameFor`). Two lists with the same
options of each name in the same order therefore come to the same layer and are answered alike,
option by option; only the order in which faults come up can differ. Options in a row build a layer
if none of them is refused in place (`Layer.foldlM_setOption`), and then every field has what the
last option of its name gave, and the named tokens are those that were declared
(`Layer.gathers_of_ofOptions`). `Layer.options_matter_by_name` says all this.
-/

set_option autoImplicit false
set_option relaxedAutoImplicit false

namespace TokenMint

/-- Lists with the same entries of each key, in the same order, are reorderings of each other. -/
theorem perm_of_filter_key_eq {α β : Type} [DecidableEq β] {key : α → β} {first second : List α}
    (hsame : ∀ value, (first.filter fun item ↦ key item == value) =
      second.filter fun item ↦ key item == value) : first.Perm second := by
  classical
  rw [List.perm_iff_count]
  intro item
  have hcount := congrArg (List.count item) (hsame (key item))
  rwa [List.count_filter (by simp), List.count_filter (by simp)] at hcount

namespace Layer

/-! ### The field of a name -/

theorem SameAt.refl (layer : Layer) (field : Field) : layer.SameAt layer field := by
  cases field <;> rfl

theorem SameAt.symm {first second : Layer} {field : Field} (hsame : first.SameAt second field) :
    second.SameAt first field := by
  cases field <;> exact Eq.symm hsame

theorem SameAt.trans {first second third : Layer} {field : Field}
    (hsame : first.SameAt second field) (hsame' : second.SameAt third field) :
    first.SameAt third field := by
  cases field <;> exact Eq.trans hsame hsame'

/-- The name of an option in small letters, by which it is known. -/
def optionName (option : String × String) : String :=
  Text.lowercase option.1

/-- The options of a name. -/
def optionsNamed (name : String) (options : List (String × String)) : List (String × String) :=
  options.filter fun option ↦ optionName option == name

/-- Whether two layers give the same for the field of a name, if there is one. -/
def SameFor (first second : Layer) (name : String) : Prop :=
  ∀ field : Field, field.option = name → first.SameAt second field

theorem eq_of_sameFor {first second : Layer} (hsame : ∀ name, first.SameFor second name) :
    first = second :=
  eq_of_sameAt fun field ↦ hsame field.option field rfl

/-! ### One option -/

/-- The answer to a directive, and what it leaves, depends on its field only. -/
theorem apply_congr {first second : Layer} {directive : Directive}
    (hsame : first.SameAt second directive.field) :
    (∃ changed changed', first.apply directive = .ok changed ∧
      second.apply directive = .ok changed' ∧ changed.SameAt changed' directive.field) ∨
    ∃ fault, first.apply directive = .error fault ∧ second.apply directive = .error fault := by
  cases directive with
  | namedToken text =>
    have hnamed : first.namedTokens = second.namedTokens := hsame
    simp only [apply, declare, hnamed]
    split
    next => exact .inr ⟨_, rfl, rfl⟩
    next =>
      cases NamedToken.ofText text with
      | error fault => exact .inr ⟨fault, rfl, rfl⟩
      | ok token => exact .inl ⟨_, _, rfl, rfl, rfl⟩
  | _ => exact .inl ⟨_, _, rfl, rfl, rfl⟩

/-- What is answered to an option depends on the field of its name, and so does what it leaves
there. -/
theorem attempt_congr {first second : Layer} {option : String × String}
    (hsame : first.SameFor second (optionName option)) :
    (attempt option.1 option.2 first).1 = (attempt option.1 option.2 second).1 ∧
      (attempt option.1 option.2 first).2.SameFor (attempt option.1 option.2 second).2
        (optionName option) := by
  rw [attempt_eq, attempt_eq, setOption, setOption]
  cases hread : Directive.read option.1 option.2 with
  | error fault => exact ⟨rfl, hsame⟩
  | ok directive =>
    have hfield := hsame directive.field (Directive.of_read hread).1.symm
    rcases apply_congr hfield with
      ⟨changed, changed', hfirst, hsecond, hafter⟩ | ⟨fault, hfirst, hsecond⟩
    · simp only [bind, Except.bind, hfirst, hsecond]
      refine ⟨rfl, fun field hname ↦ ?_⟩
      by_cases hother : field = directive.field
      · exact hother ▸ hafter
      · have hbefore := (sameAt_of_apply hfirst hother).symm
        exact hbefore.trans ((hsame field hname).trans (sameAt_of_apply hsecond hother))
    · simp only [bind, Except.bind, hfirst, hsecond]
      exact ⟨rfl, hsame⟩

/-- An option leaves the fields of other names alone. -/
theorem sameFor_attempt {layer : Layer} {option : String × String} {name : String}
    (hname : optionName option ≠ name) :
    layer.SameFor (attempt option.1 option.2 layer).2 name := by
  rw [attempt_eq]
  cases hset : layer.setOption option.1 option.2 with
  | error fault => exact fun field _ ↦ SameAt.refl layer field
  | ok changed =>
    obtain ⟨directive, hdirective, -, happly⟩ := exists_of_setOption hset
    intro field hfield
    refine sameAt_of_apply happly fun hsame ↦ hname ?_
    rw [optionName, hdirective, ← hsame, hfield]

/-! ### Options one after the other -/

/-- An option and what is answered to it. -/
abbrev Verdict := (String × String) × Except ConfigFault Unit

/-- What is answered to options that are set one after the other, also behind one that was
refused. -/
def verdicts (layer : Layer) : List (String × String) → List Verdict
  | [] => []
  | option :: rest =>
    (option, (attempt option.1 option.2 layer).1) ::
      verdicts (attempt option.1 option.2 layer).2 rest

/-- The fault of a refusal. -/
def Verdict.fault? (verdict : Verdict) : Option ConfigFault :=
  match verdict.2 with
  | .ok () => none
  | .error fault => some fault

/-- The faults of options that are set one after the other, in the order in which they come up. -/
def faults (layer : Layer) (options : List (String × String)) : List ConfigFault :=
  (layer.verdicts options).filterMap Verdict.fault?

/-- What is answered to the options of a name, and what they leave in its field, is the same without
the other options. -/
theorem alone_of_sameFor {first second : Layer} {name : String} (hsame : first.SameFor second name)
    (options : List (String × String)) :
    ((first.verdicts options).filter fun verdict ↦ optionName verdict.1 == name) =
        second.verdicts (optionsNamed name options) ∧
      (first.attemptAll options).SameFor (second.attemptAll (optionsNamed name options)) name := by
  induction options generalizing first second with
  | nil => exact ⟨rfl, hsame⟩
  | cons option rest ih =>
    by_cases hname : optionName option = name
    · subst hname
      obtain ⟨hanswer, hleft⟩ := attempt_congr hsame
      obtain ⟨hanswers, hlast⟩ := ih hleft
      have hnamed : optionsNamed (optionName option) (option :: rest) =
          option :: optionsNamed (optionName option) rest := by simp [optionsNamed]
      rw [hnamed, verdicts, verdicts, ← hanswers, ← hanswer]
      exact ⟨by simp, hlast⟩
    · have hnamed : optionsNamed name (option :: rest) = optionsNamed name rest := by
        simp [optionsNamed, hname]
      have hbefore : (attempt option.1 option.2 first).2.SameFor second name := fun field hfield ↦
        (sameFor_attempt hname field hfield).symm.trans (hsame field hfield)
      obtain ⟨hanswers, hlast⟩ := ih hbefore
      rw [hnamed, verdicts, ← hanswers]
      exact ⟨by simp [hname], hlast⟩

/-! ### Reorderings -/

/-- Whether two lists have the same options of each name, in the same order. Then they are the same
but for the order of options of different names. -/
def SameByName (options reordered : List (String × String)) : Prop :=
  ∀ name, optionsNamed name options = optionsNamed name reordered

/-- How two lists of options compare that are set one after the other on a layer. -/
structure AnsweredAlike (layer : Layer) (options reordered : List (String × String)) : Prop where
  /-- They leave the same. -/
  left : layer.attemptAll options = layer.attemptAll reordered
  /-- The options of a name are answered alike. -/
  answers (name : String) :
    ((layer.verdicts options).filter fun verdict ↦ optionName verdict.1 == name) =
      (layer.verdicts reordered).filter fun verdict ↦ optionName verdict.1 == name

theorem sameFor_refl (layer : Layer) (name : String) : layer.SameFor layer name :=
  fun field _ ↦ SameAt.refl layer field

theorem answeredAlike {options reordered : List (String × String)}
    (hsame : SameByName options reordered) (layer : Layer) :
    layer.AnsweredAlike options reordered where
  left := by
    refine eq_of_sameFor fun name field hfield ↦ ?_
    have hfirst := (alone_of_sameFor (layer.sameFor_refl name) options).2 field hfield
    have hsecond := (alone_of_sameFor (layer.sameFor_refl name) reordered).2 field hfield
    exact (hsame name ▸ hfirst).trans hsecond.symm
  answers name := by
    rw [(alone_of_sameFor (layer.sameFor_refl name) options).1,
      (alone_of_sameFor (layer.sameFor_refl name) reordered).1, hsame name]

theorem AnsweredAlike.perm_faults {layer : Layer} {options reordered : List (String × String)}
    (halike : layer.AnsweredAlike options reordered) :
    (layer.faults options).Perm (layer.faults reordered) :=
  (perm_of_filter_key_eq halike.answers).filterMap Verdict.fault?

/-! ### Building a layer -/

/-- A layer is built unless an option is refused in place, and the first fault counts. -/
theorem foldlM_setOption (layer : Layer) (options : List (String × String)) :
    options.foldlM (fun layer option ↦ layer.setOption option.1 option.2) layer =
      match (layer.faults options).head? with
      | none => .ok (layer.attemptAll options)
      | some fault => .error fault := by
  induction options generalizing layer with
  | nil => rfl
  | cons option rest ih =>
    have hattempt := attempt_eq option.1 option.2 layer
    rw [List.foldlM_cons, faults, verdicts, List.filterMap_cons]
    cases hset : layer.setOption option.1 option.2 with
    | error fault =>
      rw [hset] at hattempt
      rw [hattempt]
      rfl
    | ok changed =>
      rw [hset] at hattempt
      have hrest := ih changed
      rw [attemptAll, List.foldl_cons, hattempt]
      exact hrest

theorem ofOptions_eq (options : List (String × String)) :
    ofOptions options =
      match (empty.faults options).head? with
      | none => .ok (empty.attemptAll options)
      | some fault => .error fault :=
  empty.foldlM_setOption options

theorem ofOptions_eq_ok_iff (options : List (String × String)) (layer : Layer) :
    ofOptions options = .ok layer ↔
      empty.faults options = [] ∧ empty.attemptAll options = layer := by
  rw [ofOptions_eq]
  cases empty.faults options <;> simp

theorem ofOptions_eq_error_iff (options : List (String × String)) (fault : ConfigFault) :
    ofOptions options = .error fault ↔ (empty.faults options).head? = some fault := by
  rw [ofOptions_eq]
  cases (empty.faults options).head? <;> simp

/-! ### What a built layer gives -/

/-- The directive that sets a field to what a layer gives. -/
def directive? (layer : Layer) : Field → Option Directive
  | .format => layer.format.map .format
  | .alphabet => layer.alphabet.map .alphabet
  | .grouping => layer.grouping.map .grouping
  | .length => layer.length.map .length
  | .ttl => layer.ttl.map .ttl
  | .textBefore => layer.textBefore.map .textBefore
  | .textAfter => layer.textAfter.map .textAfter
  | .count => layer.count.map .count
  | .signed => layer.signed.map .signed
  | .signingKey => layer.signingKey.map .signingKey
  | .inheritsKey => layer.inheritsKey.map .inheritsKey
  | .expiry => layer.expiry.map .expiry
  | .timestamped => layer.timestamped.map .timestamped
  | .enabled => layer.enabled.map .enabled
  | .onlyFor => layer.onlyFor.map .onlyFor
  | .outputHeader => layer.outputHeader.map .outputHeader
  | .outputVariable => layer.outputVariable.map .outputVariable
  | .namedTokens => none

/-- A layer has gathered options if each field has what the last option of its name says, and the
named tokens are those that the options declare, in order. -/
structure Gathers (layer : Layer) (options : List (String × String)) : Prop where
  last (field : Field) (hfield : field ≠ .namedTokens) :
    (optionsNamed field.option options).getLast?.mapM
      (fun option ↦ Directive.read option.1 option.2) = .ok (layer.directive? field)
  named : (optionsNamed Field.namedTokens.option options).mapM
    (fun option ↦ NamedToken.ofText option.2) = .ok layer.namedTokens

theorem Field.eq_of_option_eq {field other : Field} (hname : field.option = other.option) :
    field = other := by
  cases field <;> cases other <;> first | rfl | exact absurd hname (by decide)

theorem directive?_congr {first second : Layer} {field : Field}
    (hsame : first.SameAt second field) : first.directive? field = second.directive? field := by
  cases field <;> first | rfl | exact congrArg (Option.map _) hsame

theorem directive?_of_apply {layer changed : Layer} {directive : Directive}
    (happly : layer.apply directive = .ok changed) (hfield : directive.field ≠ .namedTokens) :
    changed.directive? directive.field = some directive := by
  cases directive with
  | namedToken text => exact absurd rfl hfield
  | _ =>
    obtain rfl := Except.ok.inj happly
    rfl

theorem optionsNamed_concat (name : String) (options : List (String × String))
    (option : String × String) :
    optionsNamed name (options ++ [option]) =
      optionsNamed name options ++ if optionName option = name then [option] else [] := by
  rw [optionsNamed, List.filter_append]
  by_cases hname : optionName option = name <;> simp [optionsNamed, hname]

theorem read_namedToken {name : String} (value : String)
    (hname : Text.lowercase name = Field.namedTokens.option) :
    Directive.read name value = .ok (.namedToken value) := by
  rw [Directive.read, hname]
  rfl

/-- One more option that is accepted is gathered as well. -/
theorem Gathers.setOption {layer changed : Layer} {options : List (String × String)}
    (hgathers : layer.Gathers options) {option : String × String}
    (hset : layer.setOption option.1 option.2 = .ok changed) :
    changed.Gathers (options ++ [option]) := by
  obtain ⟨directive, hread, happly⟩ := exists_of_bind_eq_ok hset
  have hname := (Directive.of_read hread).1
  have hother {field : Field} (hne : optionName option ≠ field.option) :
      layer.SameAt changed field :=
    sameAt_of_apply happly fun hsame ↦ hne (hname.trans (congrArg Field.option hsame.symm))
  constructor
  case last =>
    intro field hfield
    rw [optionsNamed_concat]
    by_cases hoption : optionName option = field.option
    · obtain rfl := Field.eq_of_option_eq (hoption.symm.trans hname)
      rw [if_pos hoption, List.getLast?_concat, directive?_of_apply happly hfield, Option.mapM_some,
        hread]
      rfl
    · rw [if_neg hoption, List.append_nil, hgathers.last field hfield,
        directive?_congr (hother hoption)]
  case named =>
    rw [optionsNamed_concat]
    by_cases hoption : optionName option = Field.namedTokens.option
    · obtain rfl := Except.ok.inj (hread.symm.trans (read_namedToken option.2 hoption))
      obtain ⟨-, token, htoken, rfl⟩ := of_declare happly
      rw [if_pos hoption, List.mapM_append, hgathers.named, List.mapM_cons, htoken]
      rfl
    · have hsame : layer.namedTokens = changed.namedTokens := hother hoption
      rw [if_neg hoption, List.append_nil, hgathers.named, hsame]

theorem gathers_empty : empty.Gathers [] where
  last field _ := by cases field <;> rfl
  named := rfl

theorem gathers_of_ofOptions {options : List (String × String)} {layer : Layer}
    (hbuilt : ofOptions options = .ok layer) : layer.Gathers options := by
  induction options using List.reverseRecOn generalizing layer with
  | nil => exact Except.ok.inj hbuilt ▸ gathers_empty
  | append_singleton rest option ih =>
    rw [ofOptions, List.foldlM_append] at hbuilt
    obtain ⟨before, hbefore, hlast⟩ := exists_of_bind_eq_ok hbuilt
    rw [List.foldlM_cons] at hlast
    obtain ⟨changed, hset, hchanged⟩ := exists_of_bind_eq_ok hlast
    exact Except.ok.inj hchanged ▸ (ih hbefore).setOption hset

/-! ### The order of options -/

/-- Whether two options are answered alike and leave the same in either order. -/
structure Exchanges (layer : Layer) (option other : String × String) : Prop where
  answer : (attempt option.1 option.2 layer).1 =
    (attempt option.1 option.2 (attempt other.1 other.2 layer).2).1
  otherAnswer : (attempt other.1 other.2 layer).1 =
    (attempt other.1 other.2 (attempt option.1 option.2 layer).2).1
  left : (attempt other.1 other.2 (attempt option.1 option.2 layer).2).2 =
    (attempt option.1 option.2 (attempt other.1 other.2 layer).2).2

/-- Two options of different names are the same options of each name in either order. -/
theorem sameByName_swap {option other : String × String}
    (hname : optionName option ≠ optionName other) :
    SameByName [option, other] [other, option] := by
  intro name
  by_cases hoption : optionName option = name
  · have hother : optionName other ≠ name := fun h ↦ hname (hoption.trans h.symm)
    simp [optionsNamed, hoption, hother]
  · simp [optionsNamed, List.filter_cons, hoption]

theorem exchanges_of_ne (layer : Layer) {option other : String × String}
    (hname : optionName option ≠ optionName other) : layer.Exchanges option other where
  answer := (attempt_congr (sameFor_attempt hname.symm)).1
  otherAnswer := (attempt_congr (sameFor_attempt hname)).1
  left := (answeredAlike (sameByName_swap hname) layer).left

/-- The order of options matters among options of one name only. Two options of different names are
answered alike and leave the same in either order. Lists with the same options of each name, in the
same order, build the same layer or none, and their faults are the same up to the order in which
they come up; it is the first one that is reported. A layer that was built has in each field what
the last option of its name says, and all named tokens. -/
theorem options_matter_by_name :
    (∀ (layer : Layer) (option other : String × String),
      Text.lowercase option.1 ≠ Text.lowercase other.1 → layer.Exchanges option other) ∧
    (∀ options reordered, SameByName options reordered →
      options.Perm reordered ∧
      (∀ layer, ofOptions options = .ok layer ↔ ofOptions reordered = .ok layer) ∧
      (empty.faults options).Perm (empty.faults reordered)) ∧
    (∀ options fault,
      ofOptions options = .error fault ↔ (empty.faults options).head? = some fault) ∧
    ∀ options layer, ofOptions options = .ok layer → layer.Gathers options := by
  refine ⟨fun layer _ _ ↦ layer.exchanges_of_ne, ?_, ofOptions_eq_error_iff,
    fun _ _ ↦ gathers_of_ofOptions⟩
  intro options reordered hsame
  have halike := answeredAlike hsame empty
  refine ⟨perm_of_filter_key_eq hsame, fun layer ↦ ?_, halike.perm_faults⟩
  have hnone : empty.faults options = [] ↔ empty.faults reordered = [] :=
    ⟨fun h ↦ List.nil_perm.1 (h ▸ halike.perm_faults),
      fun h ↦ List.perm_nil.1 (h ▸ halike.perm_faults)⟩
  rw [ofOptions_eq_ok_iff, ofOptions_eq_ok_iff, hnone, halike.left]

/-- Of two lengths the later one counts, wherever the named token is declared, and a bad length is
refused behind a bad switch as well. -/
theorem options_matter_by_name_twoLengths :
    SameByName [("LENGTH", "8"), ("length", "16"), ("add-token", "A")]
        [("LENGTH", "8"), ("add-token", "A"), ("length", "16")] ∧
      ofOptions [("LENGTH", "8"), ("length", "16"), ("add-token", "A")] =
        .ok { empty with length := some 16, namedTokens := [.ofName "A"] } ∧
      ofOptions [("LENGTH", "8"), ("add-token", "A"), ("length", "16")] =
        .ok { empty with length := some 16, namedTokens := [.ofName "A"] } ∧
      Gathers { empty with length := some 16, namedTokens := [.ofName "A"] }
        [("LENGTH", "8"), ("length", "16"), ("add-token", "A")] ∧
      Text.lowercase "Sign" ≠ Text.lowercase "length" ∧
      empty.Exchanges ("Sign", "maybe") ("length", "0") := by
  obtain ⟨hexchanges, hreordered, -, hgathers⟩ := options_matter_by_name
  have hsame : SameByName [("LENGTH", "8"), ("length", "16"), ("add-token", "A")]
      [("LENGTH", "8"), ("add-token", "A"), ("length", "16")] := by
    intro name
    have hswap := sameByName_swap (show optionName ("length", "16") ≠ optionName ("add-token", "A")
      by decide) name
    have hsplit (rest : List (String × String)) : optionsNamed name (("LENGTH", "8") :: rest) =
        optionsNamed name [("LENGTH", "8")] ++ optionsNamed name rest :=
      List.filter_append [("LENGTH", "8")] rest
    rw [hsplit [("length", "16"), ("add-token", "A")], hswap, ← hsplit]
  have hbuilt : ofOptions [("LENGTH", "8"), ("length", "16"), ("add-token", "A")] =
      .ok { empty with length := some 16, namedTokens := [.ofName "A"] } := by rfl
  have hnames : Text.lowercase "Sign" ≠ Text.lowercase "length" := by decide
  exact ⟨hsame, hbuilt, ((hreordered _ _ hsame).2.1 _).1 hbuilt, hgathers _ _ hbuilt, hnames,
    hexchanges _ _ _ hnames⟩

end Layer

end TokenMint
