import TokenMint.Layer
import TokenMint.Text.Numeral

/-!
# Settings that apply to a request

`Settings` give a value to every field. `Settings.merge` lays a layer over settings: a field that
the layer gives wins, named tokens are added at the end, and a signing key comes down only to a
layer that asks for it. `Settings.named` are the settings under which one named token is minted.
Settings may be refused (`validate`) or only be questionable (`warnings`).
-/

set_option autoImplicit false
set_option relaxedAutoImplicit false

namespace TokenMint

/-- How the tokens of a request are minted and handed over. -/
structure Settings where
  format : Format
  /-- The characters of custom tokens. -/
  alphabet : Option Alphabet
  /-- The number of custom characters in a group, zero for no groups. -/
  grouping : Nat
  length : Nat
  /-- How long tokens are kept, zero for not at all. -/
  ttl : Duration
  /-- What stands before a token. -/
  textBefore : String
  /-- What stands after a token. -/
  textAfter : String
  /-- The number of tokens that are minted together. -/
  count : Nat
  /-- Whether tokens start with the time of their issue. -/
  timestamped : Bool
  /-- Whether tokens are signed. -/
  signed : Bool
  signingKey : Option SigningKey
  /-- How long after its issue a signed token expires, zero for never. -/
  expiry : Duration
  enabled : Bool
  /-- Which paths get tokens at all, if not every path does. -/
  onlyFor : Option Regex
  /-- The header that carries the tokens. -/
  outputHeader : Option String
  /-- The environment variable that carries the tokens. -/
  outputVariable : Option String
  /-- The named tokens. -/
  namedTokens : List NamedToken
  deriving DecidableEq

namespace Settings

/-! ### Where settings start -/

/-- One unsigned token of 128 bits, minted anew for every request. -/
def standard : Settings where
  format := .standard
  alphabet := none
  grouping := 0
  length := standardLength
  ttl := .zero
  textBefore := ""
  textAfter := ""
  count := 1
  timestamped := false
  signed := false
  signingKey := none
  expiry := .zero
  enabled := true
  onlyFor := none
  outputHeader := none
  outputVariable := some "UNIQUE_STRING"
  namedTokens := []

instance : Inhabited Settings := ⟨standard⟩

/-- Tokens against forged requests. -/
def csrf : Settings :=
  { standard with
    format := .hex
    length := 32
    outputHeader := some "X-CSRF-Token"
    outputVariable := some "CSRF_TOKEN" }

/-- Short tokens that people can read out, kept for a minute. The alphabet leaves out the letters
that look like others. -/
def short : Settings :=
  { standard with
    format := .custom
    alphabet := (Alphabet.ofString "0123456789ABCDEFGHJKMNPQRSTVWXYZ").toOption
    grouping := 4
    length := 8
    ttl := .ofSeconds 60 }

/-- The values of the environment variables that settings may start from. -/
structure Environment where
  length : Option String
  format : Option String
  ttl : Option String

namespace Environment

/-- The length, if it is a number within its bounds. -/
def length? (environment : Environment) : Option Nat :=
  (environment.length.bind Text.Numeral.readTrimmed?).filter fun n ↦ decide (Bounds.length.Holds n)

/-- The format, if it is known and needs no alphabet. -/
def format? (environment : Environment) : Option Format :=
  (environment.format.bind fun text ↦
    (Format.ofName (String.ofList (Text.trim text.toList))).toOption).filter
      fun format ↦ decide (format ≠ .custom)

/-- The lifetime, if it is a number of seconds within its bound. -/
def ttl? (environment : Environment) : Option Duration :=
  ((environment.ttl.bind Text.Numeral.readTrimmed?).filter
    fun n ↦ decide (n ≤ maxLifetime)).map .ofSeconds

end Environment

/-- The standard settings with whatever usable values the environment has. -/
def ofEnvironment (environment : Environment) : Settings :=
  { standard with
    length := environment.length?.getD standard.length
    format := environment.format?.getD standard.format
    ttl := environment.ttl?.getD standard.ttl }

/-! ### Layers -/

/-- A name, unless it is empty. -/
def nonEmpty (name : String) : Option String :=
  if name = "" then none else some name

/-- The alphabet after a layer. -/
def mergeAlphabet (alphabet : Option Alphabet) : Option String → Option Alphabet
  | none => alphabet
  | some text => (Alphabet.ofString text).toOption

/-- The signing key after a layer: its own, or the one above if the layer asks for it. -/
def mergeKey (key : Option SigningKey) (layer : Layer) : Option SigningKey :=
  match layer.signingKey with
  | some own => some own
  | none => if layer.inheritsKey = some true then key else none

/-- The name of an output after a layer. -/
def mergeOutput (output : Option String) : Option String → Option String
  | none => output
  | some name => nonEmpty name

/-- The settings with a layer over them. -/
def merge (settings : Settings) (layer : Layer) : Settings where
  format := layer.format.getD settings.format
  alphabet := mergeAlphabet settings.alphabet layer.alphabet
  grouping := layer.grouping.getD settings.grouping
  length := layer.length.getD settings.length
  ttl := layer.ttl.getD settings.ttl
  textBefore := layer.textBefore.getD settings.textBefore
  textAfter := layer.textAfter.getD settings.textAfter
  count := layer.count.getD settings.count
  timestamped := layer.timestamped.getD settings.timestamped
  signed := layer.signed.getD settings.signed
  signingKey := mergeKey settings.signingKey layer
  expiry := layer.expiry.getD settings.expiry
  enabled := layer.enabled.getD settings.enabled
  onlyFor := layer.onlyFor.or settings.onlyFor
  outputHeader := mergeOutput settings.outputHeader layer.outputHeader
  outputVariable := mergeOutput settings.outputVariable layer.outputVariable
  namedTokens := settings.namedTokens ++ layer.namedTokens

/-- The settings of a named token. -/
def named (settings : Settings) (token : NamedToken) : Settings :=
  { settings with
    namedTokens := []
    count := 1
    length := token.length.getD settings.length
    format := token.format.getD settings.format
    timestamped := token.timestamped.getD settings.timestamped
    textBefore := token.textBefore.getD settings.textBefore
    textAfter := token.textAfter.getD settings.textAfter
    ttl := token.ttl.getD settings.ttl
    outputVariable := some token.name
    outputHeader := token.header.bind nonEmpty }

/-! ### Faults and warnings -/

/-- Whether custom tokens are asked for and there is no alphabet for them. -/
def LacksAlphabet (settings : Settings) : Prop :=
  settings.format = .custom ∧ settings.alphabet = none

instance (settings : Settings) : Decidable settings.LacksAlphabet :=
  inferInstanceAs (Decidable (_ ∧ _))

/-- Whether tokens are to be signed and there is no key. -/
def LacksKey (settings : Settings) : Prop :=
  settings.signed = true ∧ settings.signingKey = none

instance (settings : Settings) : Decidable settings.LacksKey :=
  inferInstanceAs (Decidable (_ ∧ _))

/-- Refuses with a fault under a condition. -/
def refuseIf (condition : Prop) [Decidable condition] (fault : ConfigFault) :
    Except ConfigFault Unit :=
  if condition then .error fault else .ok ()

/-- Refuses the settings at their first fault. -/
def validate (settings : Settings) : Except ConfigFault Unit := do
  checkNumber "length" .length settings.length
  refuseIf settings.LacksAlphabet .alphabetMissing
  refuseIf settings.LacksKey .signingKeyMissing
  checkNumber "count" .count settings.count
  refuseIf (maxNamedTokens < settings.namedTokens.length)
    (.tooManyNamedTokens settings.namedTokens.length)
  settings.namedTokens.forM fun token ↦
    refuseIf (settings.named token).LacksAlphabet (.namedAlphabetMissing token.name)

theorem refuseIf_eq_ok_iff (condition : Prop) [Decidable condition] (fault : ConfigFault) :
    refuseIf condition fault = .ok () ↔ ¬condition := by
  by_cases h : condition <;> simp [refuseIf, h]

/-- What is allowed and yet questionable. -/
inductive Warning where
  | shortTokens (length : Nat)
  | longLifetime
  | neverExpires
  | uselessExpiry
  | noOutput
  deriving DecidableEq

/-- What the operator reads. -/
def Warning.message : Warning → String
  | shortTokens length =>
    "Short tokens (" ++ Nat.repr length ++ " bytes) carry less than 128 bits of entropy"
  | longLifetime => "Long cache TTL (> 1 hour) reuses one token for many requests"
  | neverExpires => "Signed metadata without an expiry never expires"
  | uselessExpiry => "Expiry has no effect unless signing is enabled"
  | noOutput => "No output header or environment variable configured"

/-- A warning under a condition. -/
def warnIf (condition : Prop) [Decidable condition] (warning : Warning) : List Warning :=
  if condition then [warning] else []

/-- The warnings about the settings. -/
def warnings (settings : Settings) : List Warning :=
  warnIf (settings.format ≠ .custom ∧ settings.length < standardLength)
      (.shortTokens settings.length) ++
    warnIf (Duration.ofSeconds 3600 < settings.ttl) .longLifetime ++
    warnIf (settings.signed = true ∧ settings.expiry.isZero = true) .neverExpires ++
    warnIf (settings.signed = false ∧ settings.expiry.isZero = false) .uselessExpiry ++
    warnIf (settings.outputHeader = none ∧ settings.outputVariable = none) .noOutput

/-- A Boolean in words. -/
def wordOf (value : Bool) : String :=
  if value then "true" else "false"

/-- The settings in one line, without anything secret. -/
def summary (settings : Settings) : String :=
  "ResolvedConfig \x7b format: " ++ settings.format.name ++
    ", length: " ++ Nat.repr settings.length ++
    ", ttl: " ++ Nat.repr settings.ttl.seconds ++ "s" ++
    ", count: " ++ Nat.repr settings.count ++
    ", sign: " ++ wordOf settings.signed ++
    ", header: " ++ settings.outputHeader.getD "-" ++
    ", env: " ++ settings.outputVariable.getD "-" ++
    ", named: " ++ Nat.repr settings.namedTokens.length ++ " \x7d"

end Settings

end TokenMint
