import TokenMint.Directive
import TokenMint.Proofs.Settings.Validity

/-!
# Options keep layers valid

A layer is checked twice: when an option is set its value is read within bounds, and a layer as a
whole is validated before it is used. The two must agree. What is read for a field passes the check
of that field (`Directive.of_read`, `NamedToken.validate_of_ofText`), and what validation accepts is
the list of conditions `Layer.IsValid`, each of which is about one field. So a layer stays valid
when an option is set (`Layer.IsValid.of_apply`), and every other field stays as it was
(`Layer.sameAt_of_apply`).

An option is set in place. The value is read in full before the layer is touched, which is why an
option that is refused leaves nothing behind (`Layer.attempt_eq`).
-/

set_option autoImplicit false
set_option relaxedAutoImplicit false

namespace TokenMint

/-! ### Results -/

theorem exists_of_bind_eq_ok {ε α β : Type} {first : Except ε α} {next : α → Except ε β}
    {result : β} (hresult : first >>= next = .ok result) :
    ∃ value, first = .ok value ∧ next value = .ok result := by
  cases first with
  | error fault => nomatch hresult
  | ok value => exact ⟨value, rfl, hresult⟩

/-- What is made of a value that was read. -/
theorem exists_of_return_eq_ok {ε α β : Type} {first : Except ε α} {make : α → β} {result : β}
    (hresult : (do return make (← first)) = Except.ok result) :
    ∃ value, first = .ok value ∧ make value = result := by
  obtain ⟨value, hvalue, hmade⟩ := exists_of_bind_eq_ok hresult
  exact ⟨value, hvalue, Except.ok.inj hmade⟩

/-- What every step keeps holds at the end of a run that succeeds. -/
theorem foldlM_keeps {ε α β : Type} {step : β → α → Except ε β} {P : β → Prop}
    (hstep : ∀ state item next, P state → step state item = .ok next → P next) {items : List α}
    {start last : β} (hstart : P start) (hrun : items.foldlM step start = .ok last) : P last := by
  induction items generalizing start with
  | nil => exact Except.ok.inj hrun ▸ hstart
  | cons item rest ih =>
    rw [List.foldlM_cons] at hrun
    obtain ⟨next, hnext, hrest⟩ := exists_of_bind_eq_ok hrun
    exact ih (hstep start item next hstart hnext) hrest

/-! ### What is read -/

theorem holds_of_readNumber {subject value : String} {bounds : Bounds} {n : Nat}
    (hread : readNumber subject bounds value = .ok n) : bounds.Holds n := by
  unfold readNumber at hread
  split at hread
  next => nomatch hread
  next read _ =>
    cases hcheck : checkNumber subject bounds read with
    | error fault =>
      rw [hcheck] at hread
      nomatch hread
    | ok accepted =>
      rw [hcheck] at hread
      exact Except.ok.inj hread ▸ (checkNumber_eq_ok_iff subject bounds read).1 hcheck

theorem not_lt_of_readLifetime {subject value : String} {high : Nat} {span : Duration}
    (hread : readLifetime subject high value = .ok span) : ¬Duration.ofSeconds high < span := by
  unfold readLifetime at hread
  split at hread
  next => nomatch hread
  next seconds _ =>
    split at hread
    next hle =>
      obtain rfl := Except.ok.inj hread
      have hspan := Nat.mul_le_mul_right nanosecondsPerSecond hle
      simp only [Duration.lt_iff, Duration.ofSeconds, Duration.ofParts, Duration.ofNanoseconds]
      omega
    next => nomatch hread

/-- The text of an alphabet that was read is the text it was read from. -/
theorem Alphabet.text_of_ofString {text : String} {alphabet : Alphabet}
    (hread : Alphabet.ofString text = .ok alphabet) : alphabet.text = text := by
  rw [Alphabet.text, Alphabet.chars_of_ofString hread, String.ofList_toList]

/-! ### Named tokens -/

namespace NamedToken

/-- A parameter that is given within its bounds keeps the declaration valid. -/
theorem validate_of_setParameter {token changed : NamedToken} {key value : String}
    (hvalid : token.validate = .ok ()) (hset : token.setParameter key value = .ok changed) :
    changed.validate = .ok () := by
  rw [validate_eq_ok_iff] at hvalid ⊢
  obtain ⟨hname, hlength, httl⟩ := hvalid
  unfold setParameter at hset
  split at hset
  case h_1 =>
    obtain ⟨length, hread, rfl⟩ := exists_of_return_eq_ok hset
    exact ⟨hname, fun _ hgiven ↦ Option.some.inj hgiven ▸ holds_of_readNumber hread, httl⟩
  case h_7 =>
    obtain ⟨ttl, hread, rfl⟩ := exists_of_return_eq_ok hset
    exact ⟨hname, hlength, fun _ hgiven ↦ Option.some.inj hgiven ▸ not_lt_of_readLifetime hread⟩
  case h_2 | h_4 =>
    obtain ⟨_, -, rfl⟩ := exists_of_return_eq_ok hset
    exact ⟨hname, hlength, httl⟩
  case h_3 | h_5 | h_6 =>
    obtain rfl := Except.ok.inj hset
    exact ⟨hname, hlength, httl⟩
  case h_8 => nomatch hset

theorem validate_of_addWord {token changed : NamedToken} {word : List Char}
    (hvalid : token.validate = .ok ()) (hadd : token.addWord word = .ok changed) :
    changed.validate = .ok () := by
  unfold addWord at hadd
  split at hadd
  next => nomatch hadd
  next => exact validate_of_setParameter hvalid hadd

/-- A declaration that can be read is valid. -/
theorem validate_of_ofText {text : String} {token : NamedToken}
    (hread : NamedToken.ofText text = .ok token) : token.validate = .ok () := by
  unfold ofText at hread
  split at hread
  next => nomatch hread
  next name parameters hwords =>
    refine foldlM_keeps (fun _ _ _ ↦ validate_of_addWord) ?_ hread
    obtain ⟨hne, hblank⟩ :=
      Text.isBlank_of_mem_words (hwords ▸ List.mem_cons_self : name ∈ Text.words text.toList)
    rw [validate_eq_ok_iff]
    exact ⟨⟨by simpa [ofName] using hne, by simpa [ofName] using hblank⟩, nofun, nofun⟩

end NamedToken

/-! ### Fields -/

namespace Layer

/-- The fields of a layer. -/
inductive Field where
  | format
  | alphabet
  | grouping
  | length
  | ttl
  | textBefore
  | textAfter
  | count
  | signed
  | signingKey
  | inheritsKey
  | expiry
  | timestamped
  | enabled
  | onlyFor
  | outputHeader
  | outputVariable
  | namedTokens
  deriving DecidableEq

/-- The name of the option that sets a field. -/
def Field.option : Field → String
  | format => "format"
  | alphabet => "alphabet"
  | grouping => "alphabet-grouping"
  | length => "length"
  | ttl => "ttl"
  | textBefore => "prefix"
  | textAfter => "suffix"
  | count => "count"
  | signed => "sign"
  | signingKey => "signing-key"
  | inheritsKey => "inherit-signing-key"
  | expiry => "expiry"
  | timestamped => "include-timestamp"
  | enabled => "enabled"
  | onlyFor => "only-for"
  | outputHeader => "output-header"
  | outputVariable => "output-env"
  | namedTokens => "add-token"

/-- Whether two layers give the same for a field. -/
def SameAt (first second : Layer) : Field → Prop
  | .format => first.format = second.format
  | .alphabet => first.alphabet = second.alphabet
  | .grouping => first.grouping = second.grouping
  | .length => first.length = second.length
  | .ttl => first.ttl = second.ttl
  | .textBefore => first.textBefore = second.textBefore
  | .textAfter => first.textAfter = second.textAfter
  | .count => first.count = second.count
  | .signed => first.signed = second.signed
  | .signingKey => first.signingKey = second.signingKey
  | .inheritsKey => first.inheritsKey = second.inheritsKey
  | .expiry => first.expiry = second.expiry
  | .timestamped => first.timestamped = second.timestamped
  | .enabled => first.enabled = second.enabled
  | .onlyFor => first.onlyFor = second.onlyFor
  | .outputHeader => first.outputHeader = second.outputHeader
  | .outputVariable => first.outputVariable = second.outputVariable
  | .namedTokens => first.namedTokens = second.namedTokens

/-- There is no more to a layer than its fields. -/
theorem eq_of_sameAt {first second : Layer} (hsame : ∀ field, first.SameAt second field) :
    first = second := by
  cases first
  cases second
  simp only [mk.injEq]
  exact ⟨hsame .format, hsame .alphabet, hsame .grouping, hsame .length, hsame .ttl,
    hsame .textBefore, hsame .textAfter, hsame .count, hsame .timestamped, hsame .signed,
    hsame .signingKey, hsame .inheritsKey, hsame .expiry, hsame .enabled, hsame .onlyFor,
    hsame .outputHeader, hsame .outputVariable, hsame .namedTokens⟩

end Layer

namespace Directive

/-- The field that a directive is about. -/
def field : Directive → Layer.Field
  | .format _ => .format
  | .alphabet _ => .alphabet
  | .grouping _ => .grouping
  | .length _ => .length
  | .ttl _ => .ttl
  | .textBefore _ => .textBefore
  | .textAfter _ => .textAfter
  | .count _ => .count
  | .signed _ => .signed
  | .signingKey _ => .signingKey
  | .inheritsKey _ => .inheritsKey
  | .expiry _ => .expiry
  | .timestamped _ => .timestamped
  | .enabled _ => .enabled
  | .onlyFor _ => .onlyFor
  | .outputHeader _ => .outputHeader
  | .outputVariable _ => .outputVariable
  | .namedToken _ => .namedTokens

/-- Whether the value of a directive keeps the bounds of its field. -/
def IsValid : Directive → Prop
  | .alphabet text => Layer.checkAlphabet text = .ok ()
  | .grouping n => Bounds.grouping.Holds n
  | .length n => Bounds.length.Holds n
  | .ttl span => ¬Duration.ofSeconds maxLifetime < span
  | .count n => Bounds.count.Holds n
  | .expiry span => ¬Duration.ofSeconds maxExpiry < span
  | _ => True

/-- A directive that can be read has the name of its field, in some letter case, and a value that
keeps the bounds. -/
theorem of_read {name value : String} {directive : Directive}
    (hread : Directive.read name value = .ok directive) :
    Text.lowercase name = directive.field.option ∧ directive.IsValid := by
  unfold Directive.read at hread
  split at hread
  case h_2 hname =>
    obtain ⟨alphabet, halphabet, rfl⟩ := exists_of_return_eq_ok hread
    refine ⟨hname, ?_⟩
    rw [IsValid, Layer.checkAlphabet, Alphabet.text_of_ofString halphabet, halphabet]
    rfl
  case h_3 hname | h_4 hname | h_8 hname =>
    obtain ⟨_, hnumber, rfl⟩ := exists_of_return_eq_ok hread
    exact ⟨hname, holds_of_readNumber hnumber⟩
  case h_5 hname | h_12 hname =>
    obtain ⟨_, hlifetime, rfl⟩ := exists_of_return_eq_ok hread
    exact ⟨hname, not_lt_of_readLifetime hlifetime⟩
  case h_1 hname | h_9 hname | h_10 hname | h_11 hname | h_13 hname | h_14 hname | h_15 hname =>
    obtain ⟨_, -, rfl⟩ := exists_of_return_eq_ok hread
    exact ⟨hname, trivial⟩
  case h_6 hname | h_7 hname | h_16 hname | h_17 hname | h_18 hname =>
    obtain rfl := Except.ok.inj hread
    exact ⟨hname, trivial⟩
  case h_19 => nomatch hread

end Directive

/-! ### Layers -/

namespace Layer

/-- What a layer must meet to be accepted. -/
structure IsValid (layer : Layer) : Prop where
  length : ∀ length ∈ layer.length, Bounds.length.Holds length
  ttl : ∀ ttl ∈ layer.ttl, ¬Duration.ofSeconds maxLifetime < ttl
  count : ∀ count ∈ layer.count, Bounds.count.Holds count
  grouping : ∀ grouping ∈ layer.grouping, Bounds.grouping.Holds grouping
  expiry : ∀ expiry ∈ layer.expiry, ¬Duration.ofSeconds maxExpiry < expiry
  alphabet : ∀ alphabet ∈ layer.alphabet, checkAlphabet alphabet = .ok ()
  namedCount : layer.namedTokens.length ≤ maxNamedTokens
  named : ∀ token ∈ layer.namedTokens, token.validate = .ok ()

theorem checkNamedCount_eq_ok_iff (tokens : List NamedToken) :
    checkNamedCount tokens = .ok () ↔ tokens.length ≤ maxNamedTokens := by
  by_cases h : maxNamedTokens < tokens.length
  · simp [checkNamedCount, h]
  · simp [checkNamedCount, h, Nat.le_of_not_lt h]

theorem validate_eq_ok_iff (layer : Layer) : layer.validate = .ok () ↔ layer.IsValid := by
  simp only [validate, bind_eq_ok_iff, checkGiven_eq_ok_iff, checkNumber_eq_ok_iff,
    checkLifetime_eq_ok_iff, checkNamedCount_eq_ok_iff, forM_eq_ok_iff]
  constructor
  · rintro ⟨hlength, httl, hcount, hgrouping, hexpiry, halphabet, hnamedCount, hnamed⟩
    exact ⟨hlength, httl, hcount, hgrouping, hexpiry, halphabet, hnamedCount, hnamed⟩
  · rintro ⟨hlength, httl, hcount, hgrouping, hexpiry, halphabet, hnamedCount, hnamed⟩
    exact ⟨hlength, httl, hcount, hgrouping, hexpiry, halphabet, hnamedCount, hnamed⟩

theorem validate_empty : empty.validate = .ok () := rfl

/-- A named token is declared behind the others, if there is room and it can be read. -/
theorem of_declare {layer changed : Layer} {text : String}
    (hdeclare : layer.declare text = .ok changed) :
    layer.namedTokens.length < maxNamedTokens ∧ ∃ token, NamedToken.ofText text = .ok token ∧
      { layer with namedTokens := layer.namedTokens ++ [token] } = changed := by
  unfold declare at hdeclare
  split at hdeclare
  next => nomatch hdeclare
  next hroom => exact ⟨Nat.lt_of_not_le hroom, exists_of_return_eq_ok hdeclare⟩

/-- A directive changes the field that it is about, and no other one. -/
theorem sameAt_of_apply {layer changed : Layer} {directive : Directive}
    (happly : layer.apply directive = .ok changed) {field : Field}
    (hfield : field ≠ directive.field) : layer.SameAt changed field := by
  cases directive with
  | namedToken text =>
    obtain ⟨-, token, -, rfl⟩ := of_declare happly
    cases field <;> first | rfl | exact absurd rfl hfield
  | _ =>
    obtain rfl := Except.ok.inj happly
    cases field <;> first | rfl | exact absurd rfl hfield

/-- A valid directive keeps a layer valid. -/
theorem IsValid.of_apply {layer changed : Layer} (hlayer : layer.IsValid) {directive : Directive}
    (hdirective : directive.IsValid) (happly : layer.apply directive = .ok changed) :
    changed.IsValid := by
  cases directive with
  | namedToken text =>
    obtain ⟨hroom, token, hread, rfl⟩ := of_declare happly
    refine { hlayer with namedCount := ?_, named := fun other hother ↦ ?_ }
    · rw [List.length_append]
      exact hroom
    · rcases List.mem_append.1 hother with hbefore | hlast
      · exact hlayer.named other hbefore
      · exact List.mem_singleton.1 hlast ▸ NamedToken.validate_of_ofText hread
  | alphabet text =>
    obtain rfl := Except.ok.inj happly
    exact { hlayer with alphabet := fun _ hgiven ↦ Option.some.inj hgiven ▸ hdirective }
  | grouping n =>
    obtain rfl := Except.ok.inj happly
    exact { hlayer with grouping := fun _ hgiven ↦ Option.some.inj hgiven ▸ hdirective }
  | length n =>
    obtain rfl := Except.ok.inj happly
    exact { hlayer with length := fun _ hgiven ↦ Option.some.inj hgiven ▸ hdirective }
  | ttl span =>
    obtain rfl := Except.ok.inj happly
    exact { hlayer with ttl := fun _ hgiven ↦ Option.some.inj hgiven ▸ hdirective }
  | count n =>
    obtain rfl := Except.ok.inj happly
    exact { hlayer with count := fun _ hgiven ↦ Option.some.inj hgiven ▸ hdirective }
  | expiry span =>
    obtain rfl := Except.ok.inj happly
    exact { hlayer with expiry := fun _ hgiven ↦ Option.some.inj hgiven ▸ hdirective }
  | _ =>
    obtain rfl := Except.ok.inj happly
    exact { hlayer with }

/-! ### Setting options in place -/

/-- A change of a layer, which may fail and leave behind what it has changed so far. -/
abbrev Edit := ExceptT ConfigFault (StateM Layer)

/-- The outcome of a change, and the layer afterwards. -/
def outcome {α : Type} (edit : Edit α) (layer : Layer) : Except ConfigFault α × Layer :=
  (StateT.run (ExceptT.run edit) layer).run

theorem outcome_bind {α β : Type} (edit : Edit α) (next : α → Edit β) (layer : Layer) :
    outcome (edit >>= next) layer =
      match outcome edit layer with
      | (.ok value, changed) => outcome (next value) changed
      | (.error fault, changed) => (.error fault, changed) := by
  unfold outcome ExceptT.run StateT.run Id.run
  simp only [bind, ExceptT.bind, ExceptT.mk, StateT.bind, ExceptT.bindCont]
  cases edit layer with
  | mk result changed => cases result <;> rfl

theorem outcome_get (layer : Layer) : outcome get layer = (.ok layer, layer) := rfl

theorem outcome_read {α : Type} (value : Except ConfigFault α) (layer : Layer) :
    outcome (liftM value) layer = (value, layer) := rfl

/-- Declares a named token, if there is room for one more. -/
def declareInPlace (text : String) : Edit Unit := do
  if maxNamedTokens ≤ (← get).namedTokens.length then
    throw .specListFull
  else
    let token ← NamedToken.ofText text
    modify fun layer ↦ { layer with namedTokens := layer.namedTokens ++ [token] }

/-- Puts a directive into the layer. -/
def applyInPlace : Directive → Edit Unit
  | .format value => modify fun layer ↦ { layer with format := some value }
  | .alphabet value => modify fun layer ↦ { layer with alphabet := some value }
  | .grouping value => modify fun layer ↦ { layer with grouping := some value }
  | .length value => modify fun layer ↦ { layer with length := some value }
  | .ttl value => modify fun layer ↦ { layer with ttl := some value }
  | .textBefore value => modify fun layer ↦ { layer with textBefore := some value }
  | .textAfter value => modify fun layer ↦ { layer with textAfter := some value }
  | .count value => modify fun layer ↦ { layer with count := some value }
  | .signed value => modify fun layer ↦ { layer with signed := some value }
  | .signingKey value => modify fun layer ↦ { layer with signingKey := some value }
  | .inheritsKey value => modify fun layer ↦ { layer with inheritsKey := some value }
  | .expiry value => modify fun layer ↦ { layer with expiry := some value }
  | .timestamped value => modify fun layer ↦ { layer with timestamped := some value }
  | .enabled value => modify fun layer ↦ { layer with enabled := some value }
  | .onlyFor value => modify fun layer ↦ { layer with onlyFor := some value }
  | .outputHeader value => modify fun layer ↦ { layer with outputHeader := some value }
  | .outputVariable value => modify fun layer ↦ { layer with outputVariable := some value }
  | .namedToken text => declareInPlace text

/-- Sets an option in place. -/
def setInPlace (name value : String) : Edit Unit := do
  applyInPlace (← Directive.read name value)

/-- The outcome of setting an option in place, and the layer afterwards. -/
def attempt (name value : String) (layer : Layer) : Except ConfigFault Unit × Layer :=
  outcome (setInPlace name value) layer

/-- The layer after setting several options in place, some of which may have been refused. -/
def attemptAll (layer : Layer) (options : List (String × String)) : Layer :=
  options.foldl (fun layer option ↦ (attempt option.1 option.2 layer).2) layer

/-- The layer of a result, or the layer that there was. -/
def orKept (layer : Layer) : Except ConfigFault Layer → Except ConfigFault Unit × Layer
  | .ok changed => (.ok (), changed)
  | .error fault => (.error fault, layer)

theorem outcome_declareInPlace (text : String) (layer : Layer) :
    outcome (declareInPlace text) layer = layer.orKept (layer.declare text) := by
  simp only [declareInPlace, declare, outcome_bind, outcome_get]
  split
  next => rfl
  next =>
    rw [outcome_bind, outcome_read]
    cases NamedToken.ofText text <;> rfl

theorem outcome_applyInPlace (directive : Directive) (layer : Layer) :
    outcome (applyInPlace directive) layer = layer.orKept (layer.apply directive) := by
  cases directive with
  | namedToken text => exact outcome_declareInPlace text layer
  | _ => rfl

/-- An option that is refused leaves the layer as it was. -/
theorem attempt_eq (name value : String) (layer : Layer) :
    attempt name value layer = layer.orKept (layer.setOption name value) := by
  rw [attempt, setInPlace, setOption, outcome_bind, outcome_read]
  cases Directive.read name value with
  | error fault => rfl
  | ok directive => exact outcome_applyInPlace directive layer

/-- What setting an option does to a layer: all or nothing, and to one field only. -/
structure SetsOneField (layer : Layer) (name value : String) : Prop where
  /-- An option that is refused leaves the layer as it was. -/
  refused : ∀ fault after, attempt name value layer = (.error fault, after) → after = layer
  /-- An option that is accepted keeps the layer valid and changes the field of its name. -/
  accepted : ∀ after, attempt name value layer = (.ok (), after) →
    after.validate = .ok () ∧ ∃ field : Field, Text.lowercase name = field.option ∧
      ∀ other, other ≠ field → layer.SameAt after other

/-- What a change by an option comes from. -/
theorem exists_of_setOption {layer changed : Layer} {name value : String}
    (hset : layer.setOption name value = .ok changed) :
    ∃ directive : Directive, Text.lowercase name = directive.field.option ∧ directive.IsValid ∧
      layer.apply directive = .ok changed := by
  obtain ⟨directive, hread, happly⟩ := exists_of_bind_eq_ok hset
  obtain ⟨hname, hvalid⟩ := Directive.of_read hread
  exact ⟨directive, hname, hvalid, happly⟩

theorem validate_of_setOption {layer changed : Layer} {name value : String}
    (hvalid : layer.validate = .ok ()) (hset : layer.setOption name value = .ok changed) :
    changed.validate = .ok () := by
  obtain ⟨directive, -, hdirective, happly⟩ := exists_of_setOption hset
  rw [validate_eq_ok_iff] at hvalid ⊢
  exact hvalid.of_apply hdirective happly

theorem setsOneField {layer : Layer} (hvalid : layer.validate = .ok ()) (name value : String) :
    layer.SetsOneField name value := by
  have hattempt := attempt_eq name value layer
  cases hset : layer.setOption name value with
  | error fault =>
    rw [hset] at hattempt
    exact {
      refused := fun _ after hafter ↦ (Prod.mk.inj (hafter.symm.trans hattempt)).2
      accepted := fun after hafter ↦ nomatch (Prod.mk.inj (hafter.symm.trans hattempt)).1 }
  | ok changed =>
    rw [hset] at hattempt
    obtain ⟨directive, hname, -, happly⟩ := exists_of_setOption hset
    constructor
    case refused =>
      exact fun fault after hafter ↦ nomatch (Prod.mk.inj (hafter.symm.trans hattempt)).1
    intro after hafter
    obtain rfl := (Prod.mk.inj (hafter.symm.trans hattempt)).2
    exact ⟨validate_of_setOption hvalid hset, directive.field, hname,
      fun _ ↦ sameAt_of_apply happly⟩

theorem validate_attempt {layer : Layer} (hvalid : layer.validate = .ok ()) (name value : String) :
    (attempt name value layer).2.validate = .ok () := by
  rw [attempt_eq]
  cases hset : layer.setOption name value with
  | error fault => exact hvalid
  | ok changed => exact validate_of_setOption hvalid hset

theorem validate_attemptAll {layer : Layer} (hvalid : layer.validate = .ok ())
    (options : List (String × String)) : (layer.attemptAll options).validate = .ok () := by
  induction options generalizing layer with
  | nil => exact hvalid
  | cons option rest ih => exact ih (validate_attempt hvalid option.1 option.2)

/-- A layer of options is valid, whatever the options are. -/
theorem validate_of_ofOptions {options : List (String × String)} {layer : Layer}
    (hbuilt : ofOptions options = .ok layer) : layer.validate = .ok () :=
  foldlM_keeps (fun _ _ _ ↦ validate_of_setOption) validate_empty hbuilt

/-- What validation promises about the named tokens of a layer. -/
structure IsAccepted (layer : Layer) : Prop where
  validate : layer.validate = .ok ()
  atMostFifty : layer.namedTokens.length ≤ 50
  named : ∀ token ∈ layer.namedTokens, token.validate = .ok ()

theorem isAccepted_of_validate {layer : Layer} (hvalid : layer.validate = .ok ()) :
    layer.IsAccepted :=
  have hlayer := (validate_eq_ok_iff layer).1 hvalid
  ⟨hvalid, hlayer.namedCount, hlayer.named⟩

/-- Options build valid layers only, and each of them sets its field or nothing: starting with a
valid layer, from nothing, or for a single named token. -/
theorem options_build_valid_layers {layer : Layer} (hvalid : layer.validate = .ok ()) :
    (∀ name value, layer.SetsOneField name value) ∧
      (∀ options, (layer.attemptAll options).IsAccepted) ∧
      (∀ options built, ofOptions options = .ok built → built.IsAccepted) ∧
      ∀ text token, NamedToken.ofText text = .ok token → token.validate = .ok () :=
  ⟨setsOneField hvalid, fun options ↦ isAccepted_of_validate (validate_attemptAll hvalid options),
    fun _ _ hbuilt ↦ isAccepted_of_validate (validate_of_ofOptions hbuilt),
    fun _ _ ↦ NamedToken.validate_of_ofText⟩

/-- From the empty layer, an option in capital letters sets its field, and a length that is too
large sets nothing. -/
theorem options_build_valid_layers_empty :
    empty.validate = .ok () ∧
      (empty.attemptAll [("LENGTH", " 32 "), ("length", "1025")]).IsAccepted ∧
      (empty.attemptAll [("LENGTH", " 32 "), ("length", "1025")]).length = some 32 :=
  ⟨validate_empty, (options_build_valid_layers validate_empty).2.1 _, by decide +kernel⟩

end Layer

end TokenMint
