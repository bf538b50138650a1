import TokenMint.Fault

/-!
# Errors of minting and verifying

A `TokenError` is what a request for tokens or a verification can fail with. Each has a short code
for machines and a message for people. Two of them, a refused configuration and a path without a
scope, only mean that no tokens are minted for the request (`isInactive`).
-/

set_option autoImplicit false
set_option relaxedAutoImplicit false

namespace TokenMint

/-- Why tokens could not be minted or verified. -/
inductive TokenError where
  /-- The entropy source gave no bytes. -/
  | entropyUnavailable (reason : String)
  /-- The configuration is refused. -/
  | invalidConfig (reason : String)
  /-- No scope covers the path. -/
  | noMatchingScope (path : String)
  /-- The signed text was altered, is malformed or has another key. -/
  | signatureMismatch
  /-- The generation that the caller waited for failed. -/
  | regenerationFailed (reason : String)
  /-- A signature scheme failed. -/
  | crypto (reason : String)
  /-- The clock could not be read. -/
  | clock (reason : String)
  deriving DecidableEq

namespace TokenError

/-- The error of a refused configuration. -/
def ofFault (fault : ConfigFault) : TokenError :=
  .invalidConfig fault.message

/-- The code for machines. -/
def code : TokenError → String
  | entropyUnavailable _ => "entropy_unavailable"
  | invalidConfig _ => "invalid_config"
  | noMatchingScope _ => "no_matching_scope"
  | signatureMismatch => "signature_mismatch"
  | regenerationFailed _ => "regeneration_failed"
  | crypto _ => "crypto_error"
  | clock _ => "clock_error"

/-- The message for people. -/
def message : TokenError → String
  | entropyUnavailable reason => "Entropy unavailable: " ++ reason
  | invalidConfig reason => "Invalid configuration: " ++ reason
  | noMatchingScope path => "No scope matches path: " ++ path
  | signatureMismatch => "Signature mismatch"
  | regenerationFailed reason => "Token regeneration failed: " ++ reason
  | crypto reason => "Crypto error: " ++ reason
  | clock reason => "Clock error: " ++ reason

/-- Whether the error only means that a request gets no tokens. -/
def isInactive : TokenError → Bool
  | invalidConfig _ | noMatchingScope _ => true
  | _ => false

end TokenError

/-- A refused configuration as a failure of a larger operation. -/
def liftFault {α : Type} : Except ConfigFault α → Except TokenError α
  | .ok value => .ok value
  | .error fault => .error (.ofFault fault)

end TokenMint
