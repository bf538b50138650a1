import TokenMint.Alphabet
import TokenMint.NamedToken
import TokenMint.Regex
import TokenMint.Signature

/-!
# Layers of a configuration

A `Layer` is what one scope says about tokens. It says nothing about a field that it does not give;
the layers of all scopes that cover a path are laid over the root settings one after the other.
-/

set_option autoImplicit false
set_option relaxedAutoImplicit false

namespace TokenMint

/-- What one scope configures. -/
structure Layer where
  format : Option Format
  /-- The characters of custom tokens, as a text. -/
  alphabet : Option String
  /-- The number of custom characters in a group. -/
  grouping : Option Nat
  length : Option Nat
  /-- How long tokens are kept. -/
  ttl : Option Duration
  /-- What stands before a token. -/
  textBefore : Option String
  /-- What stands after a token. -/
  textAfter : Option String
  /-- The number of tokens that are minted together. -/
  count : Option Nat
  /-- Whether tokens start with the time of their issue. -/
  timestamped : Option Bool
  /-- Whether tokens are signed. -/
  signed : Option Bool
  signingKey : Option SigningKey
  /-- Whether the signing key of the enclosing scope is used. -/
  inheritsKey : Option Bool
  /-- How long after its issue a signed token expires, zero for never. -/
  expiry : Option Duration
  enabled : Option Bool
  /-- Which paths get tokens at all. -/
  onlyFor : Option Regex
  /-- The header that carries the tokens, empty for none. -/
  outputHeader : Option String
  /-- The environment variable that carries the tokens, empty for none. -/
  outputVariable : Option String
  /-- The named tokens that are declared. -/
  namedTokens : List NamedToken
  deriving DecidableEq

namespace Layer

/-- The layer that gives nothing. -/
def empty : Layer where
  format := none
  alphabet := none
  grouping := none
  length := none
  ttl := none
  textBefore := none
  textAfter := none
  count := none
  timestamped := none
  signed := none
  signingKey := none
  inheritsKey := none
  expiry := none
  enabled := none
  onlyFor := none
  outputHeader := none
  outputVariable := none
  namedTokens := []

instance : Inhabited Layer := ⟨empty⟩

/-- Refuses a text that is no alphabet. -/
def checkAlphabet (text : String) : Except ConfigFault Unit :=
  (Alphabet.ofString text).map fun _ ↦ ()

/-- Refuses too many named tokens. -/
def checkNamedCount (tokens : List NamedToken) : Except ConfigFault Unit :=
  if maxNamedTokens < tokens.length then .error .tooManySpecs else .ok ()

/-- Refuses the layer at its first fault; the fields are checked in a fixed order. -/
def validate (layer : Layer) : Except ConfigFault Unit := do
  checkGiven (checkNumber "length" .length) layer.length
  checkGiven (checkLifetime "ttl" maxLifetime) layer.ttl
  checkGiven (checkNumber "count" .count) layer.count
  checkGiven (checkNumber "alphabet grouping" .grouping) layer.grouping
  checkGiven (checkLifetime "expiry" maxExpiry) layer.expiry
  checkGiven checkAlphabet layer.alphabet
  checkNamedCount layer.namedTokens
  layer.namedTokens.forM NamedToken.validate

end Layer

end TokenMint
