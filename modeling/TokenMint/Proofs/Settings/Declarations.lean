import Mathlib.Data.List.Forall2
import TokenMint.Proofs.Settings.Options
import TokenMint.Proofs.Text.Words

/-!
# Declarations of named tokens are read as they are written

A declaration is written as its name and one word for each parameter that it gives, a key and a
value with an equals sign between them. The writer is free in many ways: in the order of the
parameters, in the letter case of keys, formats and switches, in the word for a switch, and in the
blanks around words (`NamedToken.IsWrittenAs`). Whatever is chosen, the reader comes back to the
declaration.

The reader starts from the bare name and takes the words one by one. After some of them it has the
declaration with the parameters of these words only (`NamedToken.only`), and one more word adds its
parameter (`NamedToken.addWord_only`, with one case for each way to write a value). So it has all
that was written at the end (`NamedToken.foldlM_addWord_only`), which is what the declaration gives.
`NamedToken.written_declarations_are_read` says so, and that what is read is always valid.
-/

set_option autoImplicit false
set_option relaxedAutoImplicit false

namespace TokenMint

/-! ### Spans of whole seconds -/

namespace Duration

/-- A span without a part of a second is given by its seconds. -/
theorem ofSeconds_seconds {span : Duration} (hspan : span.subsecond = 0) :
    ofSeconds span.seconds = span := by
  have hlimit := span.lt_limit
  have hwhole : span.seconds * nanosecondsPerSecond = span.nanoseconds :=
    Nat.div_mul_cancel (Nat.dvd_of_mod_eq_zero hspan)
  refine ext ?_
  simp only [ofSeconds, ofParts, ofNanoseconds, hwhole]
  omega

/-- A span within a number of seconds has at most as many. -/
theorem seconds_le {span : Duration} {high : Nat} (hspan : ¬ofSeconds high < span) :
    span.seconds ≤ high := by
  simp only [lt_iff, ofSeconds, ofParts, ofNanoseconds] at hspan
  have hbound : span.nanoseconds ≤ high * nanosecondsPerSecond := by omega
  calc span.seconds
    _ ≤ high * nanosecondsPerSecond / nanosecondsPerSecond := Nat.div_le_div_right hbound
    _ = high := Nat.mul_div_cancel high (by decide)

end Duration

/-! ### Values -/

theorem readNumber_repr (subject : String) {bounds : Bounds} {n : Nat} (hn : bounds.Holds n)
    (hhigh : bounds.high < Text.Numeral.bound) :
    readNumber subject bounds (Nat.repr n) = .ok n := by
  rw [readNumber, Text.Numeral.readTrimmed?_repr (Nat.lt_of_le_of_lt hn.2 hhigh)]
  show (checkNumber subject bounds n).map _ = _
  rw [(checkNumber_eq_ok_iff subject bounds n).2 hn]
  rfl

theorem readLifetime_repr (subject : String) {high : Nat} {span : Duration}
    (hhigh : ¬Duration.ofSeconds high < span) (hspan : span.subsecond = 0) :
    readLifetime subject high (Nat.repr span.seconds) = .ok span := by
  rw [readLifetime, Text.Numeral.readTrimmed?_repr span.seconds_lt]
  show (if _ then _ else _) = _
  rw [if_pos (Duration.seconds_le hhigh), Duration.ofSeconds_seconds hspan]

/-- The words for a switch hold no blank, in any letter case. -/
theorem isUnbroken_of_switch {value : String}
    (hvalue : Text.lowercase value ∈ wordsForOn ++ wordsForOff) :
    Text.IsUnbroken value.toList := by
  have hwords : ∀ word ∈ wordsForOn ++ wordsForOff, Text.IsUnbroken word.toList := by decide
  exact Text.isUnbroken_of_lowercase (hwords _ hvalue)

theorem readSwitch_on (subject : String) {value : String}
    (hvalue : Text.lowercase value ∈ wordsForOn) : readSwitch subject value = .ok true := by
  have hunbroken := isUnbroken_of_switch (List.mem_append_left wordsForOff hvalue)
  rw [readSwitch, Text.trim_eq_self hunbroken, String.ofList_toList]
  exact if_pos hvalue

theorem readSwitch_off (subject : String) {value : String}
    (hvalue : Text.lowercase value ∈ wordsForOff) : readSwitch subject value = .ok false := by
  have hunbroken := isUnbroken_of_switch (List.mem_append_right wordsForOn hvalue)
  have hapart : ∀ word ∈ wordsForOff, word ∉ wordsForOn := by decide
  rw [readSwitch, Text.trim_eq_self hunbroken, String.ofList_toList]
  exact (if_neg (hapart _ hvalue)).trans (if_pos hvalue)

namespace Format

theorem isUnbroken_name (format : Format) : Text.IsUnbroken format.name.toList := by
  cases format <;> decide

theorem ofName_of_lowercase {format : Format} {text : String}
    (htext : Text.lowercase text = format.name) : ofName text = .ok format := by
  cases format <;> simp [ofName, htext, name]

end Format

/-! ### Parameters -/

/-- What a declaration may give besides the name. -/
inductive Parameter where
  | length
  | format
  | header
  | timestamp
  | textBefore
  | textAfter
  | ttl
  deriving DecidableEq

namespace Parameter

/-- The key of a parameter, in small letters. -/
def key : Parameter → String
  | length => "length"
  | format => "format"
  | header => "header"
  | timestamp => "timestamp"
  | textBefore => "prefix"
  | textAfter => "suffix"
  | ttl => "ttl"

/-- All parameters. -/
def all : List Parameter :=
  [length, format, header, timestamp, textBefore, textAfter, ttl]

theorem mem_all (parameter : Parameter) : parameter ∈ all := by
  cases parameter <;> decide

/-- A key in any letter case holds no blank and no equals sign. -/
theorem of_lowercase_eq_key {parameter : Parameter} {key : String}
    (hkey : Text.lowercase key = parameter.key) :
    Text.IsUnbroken key.toList ∧ '=' ∉ key.toList := by
  have hplain : Text.IsUnbroken parameter.key.toList ∧ '=' ∉ parameter.key.toList := by
    cases parameter <;> decide
  rw [← hkey] at hplain
  exact ⟨Text.isUnbroken_of_lowercase hplain.1, fun hmem ↦
    hplain.2 (Text.mem_lowercase rfl hmem)⟩

end Parameter

namespace NamedToken

/-- Whether a declaration gives a parameter. -/
def gives (token : NamedToken) : Parameter → Bool
  | .length => token.length.isSome
  | .format => token.format.isSome
  | .header => token.header.isSome
  | .timestamp => token.timestamped.isSome
  | .textBefore => token.textBefore.isSome
  | .textAfter => token.textAfter.isSome
  | .ttl => token.ttl.isSome

/-- The parameters that a declaration gives. -/
def given (token : NamedToken) : List Parameter :=
  Parameter.all.filter token.gives

theorem mem_given_iff (token : NamedToken) (parameter : Parameter) :
    parameter ∈ token.given ↔ token.gives parameter = true := by
  rw [given, List.mem_filter, and_iff_right parameter.mem_all]

/-- The declaration with some of its parameters only. -/
def only (token : NamedToken) (parameters : List Parameter) : NamedToken where
  name := token.name
  length := if .length ∈ parameters then token.length else none
  format := if .format ∈ parameters then token.format else none
  header := if .header ∈ parameters then token.header else none
  timestamped := if .timestamp ∈ parameters then token.timestamped else none
  textBefore := if .textBefore ∈ parameters then token.textBefore else none
  textAfter := if .textAfter ∈ parameters then token.textAfter else none
  ttl := if .ttl ∈ parameters then token.ttl else none

theorem only_nil (token : NamedToken) : token.only [] = ofName token.name :=
  rfl

theorem ite_none_eq_self {α : Type} {P : Prop} [Decidable P] {value : Option α}
    (h : P ↔ value.isSome = true) : (if P then value else none) = value := by
  cases value with
  | none => exact ite_self none
  | some given => exact if_pos (h.2 rfl)

/-- Nothing is missing from a declaration that has all the parameters it gives. -/
theorem only_eq_self {token : NamedToken} {parameters : List Parameter}
    (hparameters : parameters.Perm token.given) : token.only parameters = token := by
  have hgiven (parameter : Parameter) : parameter ∈ parameters ↔ token.gives parameter = true := by
    rw [hparameters.mem_iff, mem_given_iff]
  simp only [only]
  rw [ite_none_eq_self (hgiven .length), ite_none_eq_self (hgiven .format),
    ite_none_eq_self (hgiven .header), ite_none_eq_self (hgiven .timestamp),
    ite_none_eq_self (hgiven .textBefore), ite_none_eq_self (hgiven .textAfter),
    ite_none_eq_self (hgiven .ttl)]

/-! ### Writing -/

/-- The texts that may stand for the value of a parameter. -/
inductive Spells (token : NamedToken) : Parameter → String → Prop
  | length {n : Nat} (value : String) (hgiven : token.length = some n)
      (hvalue : value = Nat.repr n) : Spells token .length value
  | format {format : Format} (value : String) (hgiven : token.format = some format)
      (hvalue : Text.lowercase value = format.name) : Spells token .format value
  | header {value : String} (hgiven : token.header = some value) : Spells token .header value
  | on (value : String) (hgiven : token.timestamped = some true)
      (hvalue : Text.lowercase value ∈ wordsForOn) : Spells token .timestamp value
  | off (value : String) (hgiven : token.timestamped = some false)
      (hvalue : Text.lowercase value ∈ wordsForOff) : Spells token .timestamp value
  | textBefore {value : String} (hgiven : token.textBefore = some value) :
      Spells token .textBefore value
  | textAfter {value : String} (hgiven : token.textAfter = some value) :
      Spells token .textAfter value
  | ttl {span : Duration} (value : String) (hgiven : token.ttl = some span)
      (hvalue : value = Nat.repr span.seconds) : Spells token .ttl value

/-- Whether a word gives a parameter: the key in any letter case, an equals sign and the value. -/
def IsWordFor (token : NamedToken) (parameter : Parameter) (word : List Char) : Prop :=
  ∃ key value : String, Text.lowercase key = parameter.key ∧ token.Spells parameter value ∧
    word = key.toList ++ '=' :: value.toList

/-- Whether a text is a way to write a declaration: the name and then one word for each parameter
that is given, in any order, with blanks between the words and perhaps around the text. -/
def IsWrittenAs (token : NamedToken) (text : String) : Prop :=
  ∃ (parameters : List Parameter) (words : List (List Char)),
    parameters.Perm token.given ∧ List.Forall₂ token.IsWordFor parameters words ∧
      Text.Spaces (token.name.toList :: words) text.toList

/-- Whether a declaration can be written at all: its time to live is a number of seconds, and its
texts hold no blank. -/
structure IsWritable (token : NamedToken) : Prop where
  ttl : ∀ span ∈ token.ttl, span.subsecond = 0
  header : ∀ text ∈ token.header, Text.IsUnbroken text.toList
  textBefore : ∀ text ∈ token.textBefore, Text.IsUnbroken text.toList
  textAfter : ∀ text ∈ token.textAfter, Text.IsUnbroken text.toList

/-- A written value holds no blank. -/
theorem Spells.isUnbroken {token : NamedToken} (hwritable : token.IsWritable)
    {parameter : Parameter} {value : String} (hspells : token.Spells parameter value) :
    Text.IsUnbroken value.toList := by
  cases hspells with
  | length value _ hvalue => exact hvalue ▸ Text.isUnbroken_repr _
  | @format format value _ hvalue =>
    exact Text.isUnbroken_of_lowercase (hvalue ▸ format.isUnbroken_name)
  | header hgiven => exact hwritable.header value hgiven
  | on value _ hvalue => exact isUnbroken_of_switch (List.mem_append_left _ hvalue)
  | off value _ hvalue => exact isUnbroken_of_switch (List.mem_append_right _ hvalue)
  | textBefore hgiven => exact hwritable.textBefore value hgiven
  | textAfter hgiven => exact hwritable.textAfter value hgiven
  | ttl value _ hvalue => exact hvalue ▸ Text.isUnbroken_repr _

/-- A written parameter is one word. -/
theorem IsWordFor.isUnbroken {token : NamedToken} (hwritable : token.IsWritable)
    {parameter : Parameter} {word : List Char} (hword : token.IsWordFor parameter word) :
    word ≠ [] ∧ Text.IsUnbroken word := by
  obtain ⟨key, value, hkey, hspells, rfl⟩ := hword
  have hmark : Text.IsUnbroken ['='] := by decide
  have hvalue := hmark.append (hspells.isUnbroken hwritable)
  exact ⟨by simp, (Parameter.of_lowercase_eq_key hkey).1.append hvalue⟩

theorem isUnbroken_of_mem_words {token : NamedToken} (hwritable : token.IsWritable)
    {parameters : List Parameter} {words : List (List Char)}
    (hwords : List.Forall₂ token.IsWordFor parameters words) :
    ∀ word ∈ words, word ≠ [] ∧ Text.IsUnbroken word := by
  induction hwords with
  | nil => nofun
  | cons hword _ ih => exact List.forall_mem_cons.2 ⟨hword.isUnbroken hwritable, ih⟩

/-! ### Reading -/

/-- The value of a parameter is added to the parameters that are there. -/
theorem setParameter_only {token : NamedToken} (hvalid : token.validate = .ok ())
    (hwritable : token.IsWritable) {parameter : Parameter} {key value : String}
    (hkey : Text.lowercase key = parameter.key) (hspells : token.Spells parameter value)
    (done : List Parameter) :
    (token.only done).setParameter key value = .ok (token.only (done ++ [parameter])) := by
  obtain ⟨-, hlength, httl⟩ := token.validate_eq_ok_iff.1 hvalid
  -- What is read goes into its own field, and no other field depends on this parameter.
  cases hspells <;> simp only [setParameter, hkey, Parameter.key]
  case length n hgiven hvalue =>
    rw [hvalue, readNumber_repr key (hlength n hgiven) (by decide)]
    exact congrArg Except.ok (by simp [only, hgiven])
  case format format hgiven hvalue =>
    rw [Format.ofName_of_lowercase hvalue]
    exact congrArg Except.ok (by simp [only, hgiven])
  case on hgiven hvalue =>
    rw [readSwitch_on key hvalue]
    exact congrArg Except.ok (by simp [only, hgiven])
  case off hgiven hvalue =>
    rw [readSwitch_off key hvalue]
    exact congrArg Except.ok (by simp [only, hgiven])
  case ttl span hgiven hvalue =>
    rw [hvalue, readLifetime_repr key (httl span hgiven) (hwritable.ttl span hgiven)]
    exact congrArg Except.ok (by simp [only, hgiven])
  case header hgiven | textBefore hgiven | textAfter hgiven => simp [only, hgiven]

/-- A word adds its parameter. -/
theorem addWord_only {token : NamedToken} (hvalid : token.validate = .ok ())
    (hwritable : token.IsWritable) {parameter : Parameter} {word : List Char}
    (hword : token.IsWordFor parameter word) (done : List Parameter) :
    (token.only done).addWord word = .ok (token.only (done ++ [parameter])) := by
  obtain ⟨key, value, hkey, hspells, rfl⟩ := hword
  rw [addWord, Text.splitFirst_append _ (Parameter.of_lowercase_eq_key hkey).2]
  simp only [String.ofList_toList]
  exact setParameter_only hvalid hwritable hkey hspells done

/-- The words add their parameters, one after the other. -/
theorem foldlM_addWord_only {token : NamedToken} (hvalid : token.validate = .ok ())
    (hwritable : token.IsWritable) {parameters : List Parameter} {words : List (List Char)}
    (hwords : List.Forall₂ token.IsWordFor parameters words) (done : List Parameter) :
    words.foldlM addWord (token.only done) = .ok (token.only (done ++ parameters)) := by
  induction hwords generalizing done with
  | nil => rw [List.append_nil]; rfl
  | @cons parameter word parameters words hword _ ih =>
    rw [List.foldlM_cons, addWord_only hvalid hwritable hword,
      List.append_cons done parameter parameters]
    exact ih (done ++ [parameter])

/-- A declaration that is valid and can be written is what is read from each way to write it, and
what is read from any text is valid. -/
theorem written_declarations_are_read :
    (∀ (token : NamedToken) (text : String), token.validate = .ok () → token.IsWritable →
      token.IsWrittenAs text → ofText text = .ok token) ∧
    ∀ (text : String) (token : NamedToken), ofText text = .ok token → token.validate = .ok () := by
  refine ⟨fun token text hvalid hwritable hwritten ↦ ?_, fun text token ↦ validate_of_ofText⟩
  obtain ⟨parameters, words, hparameters, hwords, hspaces⟩ := hwritten
  obtain ⟨hname, -⟩ := token.validate_eq_ok_iff.1 hvalid
  have hpieces : ∀ piece ∈ token.name.toList :: words, piece ≠ [] ∧ Text.IsUnbroken piece :=
    List.forall_mem_cons.2 ⟨hname, isUnbroken_of_mem_words hwritable hwords⟩
  rw [ofText, Text.words_of_spaces hspaces hpieces]
  simp only [String.ofList_toList]
  rw [← only_nil, foldlM_addWord_only hvalid hwritable hwords, List.nil_append,
    only_eq_self hparameters]

/-- A declaration that gives every parameter. -/
def everyParameter : NamedToken where
  name := "CSRF"
  length := some 32
  format := some .base64Url
  header := some "X=Csrf"
  timestamped := some true
  textBefore := some ""
  textAfter := some "=_s"
  ttl := some (.ofSeconds 90)

/-- A way to write it, with blanks of several scripts. -/
def everyParameterText : String :=
  "\u3000CSRF ttl=90\t\nPREFIX=\u00a0Timestamp=YES length=32 Format=Base64URL " ++
    "suffix==_s header=X=Csrf "

theorem isWrittenAs_everyParameterText : everyParameter.IsWrittenAs everyParameterText := by
  refine ⟨[.ttl, .textBefore, .timestamp, .length, .format, .textAfter, .header],
    ["ttl=90".toList, "PREFIX=".toList, "Timestamp=YES".toList, "length=32".toList,
      "Format=Base64URL".toList, "suffix==_s".toList, "header=X=Csrf".toList],
    by decide, ?_, ?_⟩
  · exact .cons ⟨"ttl", "90", rfl, .ttl "90" rfl rfl, rfl⟩ <|
      .cons ⟨"PREFIX", "", rfl, .textBefore rfl, rfl⟩ <|
      .cons ⟨"Timestamp", "YES", rfl, .on "YES" rfl (by decide), rfl⟩ <|
      .cons ⟨"length", "32", rfl, .length "32" rfl rfl, rfl⟩ <|
      .cons ⟨"Format", "Base64URL", rfl, .format "Base64URL" rfl rfl, rfl⟩ <|
      .cons ⟨"suffix", "=_s", rfl, .textAfter rfl, rfl⟩ <|
      .cons ⟨"header", "X=Csrf", rfl, .header rfl, rfl⟩ .nil
  · have hwords : Text.words everyParameterText.toList = ["CSRF".toList, "ttl=90".toList,
        "PREFIX=".toList, "Timestamp=YES".toList, "length=32".toList, "Format=Base64URL".toList,
        "suffix==_s".toList, "header=X=Csrf".toList] := by decide +kernel
    exact hwords ▸ Text.spaces_words (by decide +kernel)

/-- The parameters may be mixed up, with keys and names in any letter case, and a value may have
further equals signs or be empty. -/
theorem written_declarations_are_read_everyParameter :
    everyParameter.validate = .ok () ∧ everyParameter.IsWritable ∧
      everyParameter.IsWrittenAs everyParameterText ∧
      ofText everyParameterText = .ok everyParameter := by
  obtain ⟨hread, hvalidates⟩ := written_declarations_are_read
  have hvalid : everyParameter.validate = .ok () := rfl
  have hwritable : everyParameter.IsWritable := ⟨by decide, by decide, by decide, by decide⟩
  have h := hread everyParameter _ hvalid hwritable isWrittenAs_everyParameterText
  exact ⟨hvalidates _ _ h, hwritable, isWrittenAs_everyParameterText, h⟩

end NamedToken

end TokenMint
