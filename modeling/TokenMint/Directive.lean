import TokenMint.Bytes.Utf8
import TokenMint.Layer
import TokenMint.Text.Numeral

/-!
# Directives

A directive is a name and a value, both texts, as an operator writes them. `Directive.read` reads
one: names are known in any ASCII letter case, and a value is checked at once. `Layer.apply` puts a
directive into a layer. Only the declaration of a named token is read when it is applied, because a
layer that is full refuses it unread. A directive that fails leaves the layer as it was.
-/

set_option autoImplicit false
set_option relaxedAutoImplicit false

namespace TokenMint

/-! ### Values -/

/-- A number within bounds, with blanks around it. -/
def readNumber (subject : String) (bounds : Bounds) (value : String) : Except ConfigFault Nat :=
  match Text.Numeral.readTrimmed? value with
  | none => .error (.numberOutOfRange subject bounds.low bounds.high)
  | some n => (checkNumber subject bounds n).map fun _ ↦ n

/-- A number of seconds up to a bound, with blanks around it. -/
def readLifetime (subject : String) (high : Nat) (value : String) : Except ConfigFault Duration :=
  match Text.Numeral.readTrimmed? value with
  | none => .error (.secondsOutOfRange subject high)
  | some n => if n ≤ high then .ok (.ofSeconds n) else .error (.secondsOutOfRange subject high)

/-- The words that turn a switch on. -/
def wordsForOn : List String :=
  ["on", "true", "yes", "1"]

/-- The words that turn a switch off. -/
def wordsForOff : List String :=
  ["off", "false", "no", "0"]

/-- A switch in any ASCII letter case, with blanks around it. -/
def readSwitch (subject : String) (value : String) : Except ConfigFault Bool :=
  let word := Text.lowercase (String.ofList (Text.trim value.toList))
  if word ∈ wordsForOn then .ok true
  else if word ∈ wordsForOff then .ok false
  else .error (.notASwitch subject)

/-! ### Named tokens -/

namespace NamedToken

/-- The declaration with one parameter given. -/
def setParameter (token : NamedToken) (key value : String) : Except ConfigFault NamedToken :=
  match Text.lowercase key with
  | "length" => do return { token with length := some (← readNumber key .length value) }
  | "format" => do return { token with format := some (← Format.ofName value) }
  | "header" => .ok { token with header := some value }
  | "timestamp" => do return { token with timestamped := some (← readSwitch key value) }
  | "prefix" => .ok { token with textBefore := some value }
  | "suffix" => .ok { token with textAfter := some value }
  | "ttl" => do return { token with ttl := some (← readLifetime key maxLifetime value) }
  | unknown => .error (.specKeyUnknown unknown)

/-- The declaration with one more word, which must be a key and a value with an equals sign between
them. -/
def addWord (token : NamedToken) (word : List Char) : Except ConfigFault NamedToken :=
  match Text.splitFirst '=' word with
  | none => .error (.specWordInvalid (String.ofList word))
  | some (key, value) => token.setParameter (String.ofList key) (String.ofList value)

/-- The declaration that a text gives: the name and then the parameters, with blanks between. -/
def ofText (text : String) : Except ConfigFault NamedToken :=
  match Text.words text.toList with
  | [] => .error .specNameMissing
  | name :: parameters => parameters.foldlM addWord (ofName (String.ofList name))

end NamedToken

/-! ### Directives -/

/-- A directive whose value has been read. -/
inductive Directive where
  | format (value : Format)
  | alphabet (value : String)
  | grouping (value : Nat)
  | length (value : Nat)
  | ttl (value : Duration)
  | textBefore (value : String)
  | textAfter (value : String)
  | count (value : Nat)
  | signed (value : Bool)
  | signingKey (value : SigningKey)
  | inheritsKey (value : Bool)
  | expiry (value : Duration)
  | timestamped (value : Bool)
  | enabled (value : Bool)
  | onlyFor (value : Regex)
  | outputHeader (value : String)
  | outputVariable (value : String)
  | namedToken (text : String)
  deriving DecidableEq

/-- The expression of a filter. -/
def readFilter (value : String) : Except ConfigFault Regex :=
  Except.mapError .filterSyntax (Regex.ofString value)

/-- The directive of a name and a value. -/
def Directive.read (name value : String) : Except ConfigFault Directive :=
  match Text.lowercase name with
  | "format" => return .format (← Format.ofName value)
  | "alphabet" => return .alphabet (← Alphabet.ofString value).text
  | "alphabet-grouping" => return .grouping (← readNumber name .grouping value)
  | "length" => return .length (← readNumber name .length value)
  | "ttl" => return .ttl (← readLifetime name maxLifetime value)
  | "prefix" => return .textBefore value
  | "suffix" => return .textAfter value
  | "count" => return .count (← readNumber name .count value)
  | "sign" => return .signed (← readSwitch name value)
  | "signing-key" => return .signingKey (← SigningKey.ofBytes (Bytes.Utf8.ofText value))
  | "inherit-signing-key" => return .inheritsKey (← readSwitch name value)
  | "expiry" => return .expiry (← readLifetime name maxExpiry value)
  | "include-timestamp" => return .timestamped (← readSwitch name value)
  | "enabled" => return .enabled (← readSwitch name value)
  | "only-for" => return .onlyFor (← readFilter value)
  | "output-header" => return .outputHeader value
  | "output-env" => return .outputVariable value
  | "add-token" => return .namedToken value
  | unknown => .error (.unknownOption unknown)

namespace Layer

/-- The layer with one more named token. -/
def declare (layer : Layer) (text : String) : Except ConfigFault Layer :=
  if maxNamedTokens ≤ layer.namedTokens.length then .error .specListFull
  else do return { layer with namedTokens := layer.namedTokens ++ [← NamedToken.ofText text] }

/-- The layer with a directive put into it. -/
def apply (layer : Layer) : Directive → Except ConfigFault Layer
  | .format value => .ok { layer with format := some value }
  | .alphabet value => .ok { layer with alphabet := some value }
  | .grouping value => .ok { layer with grouping := some value }
  | .length value => .ok { layer with length := some value }
  | .ttl value => .ok { layer with ttl := some value }
  | .textBefore value => .ok { layer with textBefore := some value }
  | .textAfter value => .ok { layer with textAfter := some value }
  | .count value => .ok { layer with count := some value }
  | .signed value => .ok { layer with signed := some value }
  | .signingKey value => .ok { layer with signingKey := some value }
  | .inheritsKey value => .ok { layer with inheritsKey := some value }
  | .expiry value => .ok { layer with expiry := some value }
  | .timestamped value => .ok { layer with timestamped := some value }
  | .enabled value => .ok { layer with enabled := some value }
  | .onlyFor value => .ok { layer with onlyFor := some value }
  | .outputHeader value => .ok { layer with outputHeader := some value }
  | .outputVariable value => .ok { layer with outputVariable := some value }
  | .namedToken text => layer.declare text

/-- The layer after a directive that is given by its name and value. -/
def setOption (layer : Layer) (name value : String) : Except ConfigFault Layer := do
  layer.apply (← Directive.read name value)

/-- The layer of a list of directives, which fails at the first bad one. -/
def ofOptions (options : List (String × String)) : Except ConfigFault Layer :=
  options.foldlM (fun layer option ↦ layer.setOption option.1 option.2) empty

end Layer

end TokenMint
