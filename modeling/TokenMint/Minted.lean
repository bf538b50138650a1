import TokenMint.Encoding
import TokenMint.Entropy
import TokenMint.Metadata
import TokenMint.Settings

/-!
# Minting tokens

`Minted` are the tokens that were minted together, with the text that signs each of them if they are
signed. `Settings.assemble` makes them from random bytes: every token takes the same number of bytes
in turn, and no byte is used twice or left over (`flatten_chunks`). `Settings.mint` draws the bytes
from a source in one draw, and draws nothing if the settings are refused.
-/

set_option autoImplicit false
set_option relaxedAutoImplicit false

namespace TokenMint

/-- Tokens that were minted together. -/
structure Minted where
  tokens : List String
  /-- The signed metadata of each token, in the same order, or nothing. -/
  signatures : List String
  /-- When the tokens were issued. -/
  issuedAt : Duration
  deriving DecidableEq

/-- So many pieces of the given size, one after the other. -/
def chunks (size : Nat) : Nat → List UInt8 → List (List UInt8)
  | 0, _ => []
  | count + 1, bytes => bytes.take size :: chunks size count (bytes.drop size)

theorem flatten_chunks {size count : Nat} {bytes : List UInt8}
    (hlength : bytes.length = size * count) : (chunks size count bytes).flatten = bytes := by
  induction count generalizing bytes with
  | zero => exact (List.length_eq_zero_iff.1 hlength).symm
  | succ count ih =>
    rw [Nat.mul_succ] at hlength
    rw [chunks, List.flatten_cons, ih (by rw [List.length_drop]; omega), List.take_append_drop]

namespace Settings

/-- The number of random bytes of one token. -/
def bytesPerToken (settings : Settings) : Nat :=
  settings.format.entropySize settings.length

/-- The number of random bytes of all tokens that are minted together. -/
def bytesPerDraw (settings : Settings) : Nat :=
  settings.bytesPerToken * settings.count

/-- The text of one token: its encoded bytes, after the second of its issue if it is to be shown,
with the configured texts around them. -/
def tokenText (settings : Settings) (now : Duration) (raw : List UInt8) :
    Except ConfigFault String := do
  let encoded ← Encoding.encode raw settings.format settings.alphabet settings.grouping
  let stamp := if settings.timestamped then Nat.repr now.seconds ++ "-" else ""
  return settings.textBefore ++ stamp ++ encoded ++ settings.textAfter

/-- When a token that is issued now expires, if it ever does. The sum stops at the last second. -/
def expiresAt (settings : Settings) (now : Duration) : Option UInt64 :=
  if settings.expiry.isZero then none
  else some (UInt64.ofNat (min (now.seconds + settings.expiry.seconds) (UInt64.size - 1)))

/-- What is signed about a token. -/
def payload (settings : Settings) (scope : String) (now : Duration) (token : String) : Payload where
  issuedAt := UInt64.ofNat now.seconds
  expiresAt := settings.expiresAt now
  scope := scope
  token := token

/-- The signed metadata of a token under a key. -/
def signature (settings : Settings) (key : SigningKey) (scope : String) (now : Duration)
    (token : String) : Except TokenError String :=
  (SignedMetadata.sign (.keyed key) (settings.payload scope now token)).map SignedMetadata.text

/-- The signed metadata of all tokens, if they are signed. Settings that have been validated have a
key then. -/
def signatures (settings : Settings) (scope : String) (now : Duration) (tokens : List String) :
    Except TokenError (List String) :=
  if settings.signed then
    match settings.signingKey with
    | none => .error (.ofFault .signingKeyUnset)
    | some key => tokens.mapM (settings.signature key scope now)
  else .ok []

/-- The tokens that are made of random bytes. -/
def assemble (settings : Settings) (scope : String) (now : Duration) (raw : List UInt8) :
    Except TokenError Minted := do
  let pieces := chunks settings.bytesPerToken settings.count raw
  let tokens ← liftFault (pieces.mapM (settings.tokenText now))
  let signatures ← settings.signatures scope now tokens
  return ⟨tokens, signatures, now⟩

/-- Draws the bytes of all tokens from a source and makes the tokens of them. -/
def mint (settings : Settings) (source : EntropySource) (scope : String) (now : Duration)
    (use : EntropyUse) : Except TokenError Minted × EntropyUse :=
  match settings.validate with
  | .error fault => (.error (.ofFault fault), use)
  | .ok () =>
    let (number, use) := use.announce settings.bytesPerDraw
    let (drawn, use) := source.draw number settings.bytesPerDraw use
    (drawn.bind (settings.assemble scope now), use)

end Settings

end TokenMint
