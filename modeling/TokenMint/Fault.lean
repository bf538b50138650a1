import TokenMint.Regex.Fault

/-!
# Faults of a configuration

A `ConfigFault` is one reason why a configuration, an option or a scope is refused. Faults are
causes: what the user reads is written in one place, `ConfigFault.message`.
-/

set_option autoImplicit false
set_option relaxedAutoImplicit false

namespace TokenMint

/-- Why a configuration is refused. -/
inductive ConfigFault where
  /-- A token would have no bytes. -/
  | emptyToken
  /-- Custom tokens have no alphabet. -/
  | alphabetMissing
  /-- The bytes of a custom token fill no whole number of characters. -/
  | partialCharacter
  /-- The format has no such name. -/
  | unknownFormat (name : String)
  | alphabetTooShort
  | alphabetTooLong
  | alphabetHoldsSeparator
  | alphabetRepeats (c : Char) (position : Nat)
  | emptySigningKey
  /-- A number lies outside its bounds, or is no number. -/
  | numberOutOfRange (subject : String) (low high : Nat)
  /-- A number of seconds lies above its bound, or is no number. -/
  | secondsOutOfRange (subject : String) (high : Nat)
  /-- A switch is neither on nor off. -/
  | notASwitch (subject : String)
  | unknownOption (name : String)
  | filterSyntax (fault : Regex.SyntaxFault)
  | patternSyntax (fault : Regex.SyntaxFault)
  /-- A layer declares too many named tokens. -/
  | tooManySpecs
  /-- An option would declare one named token too many. -/
  | specListFull
  /-- A named token is declared without a name. -/
  | specNameMissing
  | specWordInvalid (word : String)
  | specKeyUnknown (key : String)
  /-- The name of a named token is empty or holds a blank. -/
  | specNameInvalid (name : String)
  /-- A fault of one named token. -/
  | inSpec (name : String) (fault : ConfigFault)
  /-- Signing is on and there is no key. -/
  | signingKeyMissing
  /-- Signing is on and there is no key when tokens are to be signed. -/
  | signingKeyUnset
  /-- Too many named tokens apply at once. -/
  | tooManyNamedTokens (count : Nat)
  /-- A named token is custom and has no alphabet. -/
  | namedAlphabetMissing (name : String)
  | scopeNameInvalid (name : String)
  | scopeNameRepeated (name : String)
  /-- A fault of one scope's layer. -/
  | inScope (name : String) (fault : ConfigFault)
  /-- The root configuration carries a signing key. -/
  | rootSigningKey
  deriving DecidableEq

namespace ConfigFault

/-- A name in straight single quotes. -/
def quoted (name : String) : String :=
  "'" ++ name ++ "'"

/-- What the user reads. -/
def message : ConfigFault → String
  | emptyToken => "token length must be at least 1"
  | alphabetMissing => "custom format requires an alphabet"
  | partialCharacter => "custom format consumes 4 raw bytes per character"
  | unknownFormat name =>
    "format must be one of: hex, base64url, base64, custom (got " ++ quoted name ++ ")"
  | alphabetTooShort => "alphabet must contain at least 2 characters"
  | alphabetTooLong => "alphabet too long (max 256 characters)"
  | alphabetHoldsSeparator => "alphabet must not contain the grouping separator '-'"
  | alphabetRepeats c position =>
    "alphabet has duplicate character " ++ quoted (String.singleton c) ++ " at position " ++
      Nat.repr position
  | emptySigningKey => "signing key cannot be empty"
  | numberOutOfRange subject low high =>
    subject ++ " must be between " ++ Nat.repr low ++ " and " ++ Nat.repr high
  | secondsOutOfRange subject high =>
    subject ++ " must be between 0 and " ++ Nat.repr high ++ " seconds"
  | notASwitch subject => subject ++ " must be 'on' or 'off'"
  | unknownOption name => "unknown option " ++ quoted name
  | filterSyntax fault => "only-for is not a valid regex: " ++ fault.message
  | patternSyntax fault => "invalid url pattern: " ++ fault.message
  | tooManySpecs => "a scope may declare at most 50 named tokens"
  | specListFull => "add-token: at most 50 named tokens per scope"
  | specNameMissing => "add-token: variable name is required"
  | specWordInvalid word => "add-token: invalid argument " ++ quoted word ++ " (expected key=value)"
  | specKeyUnknown key => "add-token: unknown parameter " ++ quoted key
  | specNameInvalid name =>
    "named token " ++ quoted name ++ " needs a variable name without whitespace"
  | inSpec name fault => "named token " ++ quoted name ++ ": " ++ fault.message
  | signingKeyMissing => "signing is enabled but no signing key applies to this scope"
  | signingKeyUnset => "signing is enabled but no signing key is set"
  | tooManyNamedTokens count =>
    Nat.repr count ++ " named tokens apply to this scope; at most 50 are allowed"
  | namedAlphabetMissing name =>
    "named token " ++ quoted name ++ " uses the custom format but no alphabet applies"
  | scopeNameInvalid name =>
    "scope name " ++ quoted name ++ " must be non-empty and must not contain '>' or '#'"
  | scopeNameRepeated name => "duplicate scope name " ++ quoted name
  | inScope name fault => "scope " ++ quoted name ++ ": " ++ fault.message
  | rootSigningKey => "signing keys are set per scope; the root configuration cannot carry one"

end ConfigFault

end TokenMint
