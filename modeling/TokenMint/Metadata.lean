import TokenMint.Bytes.Base64
import TokenMint.Metadata.Payload
import TokenMint.Signature

/-!
# Signed metadata

The metadata of a token is its payload with a tag: the written form of the payload and the tag, both
in URL-safe base64, joined by a dot. `sign` writes it. `verify` accepts a text only if both parts
are strict base64, the scheme accepts the tag for the bytes of the first part, and these bytes hold
a payload; whatever is wrong with the text itself is reported as one and the same mismatch.
-/

set_option autoImplicit false
set_option relaxedAutoImplicit false

namespace TokenMint

/-- A payload with its tag. -/
structure SignedMetadata where
  /-- The signed fields. -/
  payload : Payload
  /-- The tag of the written form of the payload. -/
  tag : List UInt8
  deriving DecidableEq

namespace SignedMetadata

/-- The character between the payload and the tag. -/
def separator : Char := '.'

/-- The text of some bytes and their tag. -/
def join (bytes tag : List UInt8) : List Char :=
  Bytes.Base64.urlSafe.encode bytes ++ separator :: Bytes.Base64.urlSafe.encode tag

/-- The bytes and the tag of a text. -/
def split? (text : List Char) : Option (List UInt8 × List UInt8) := do
  let (bytes, tag) ← Text.splitFirst separator text
  let bytes ← Bytes.Base64.urlSafe.decode? bytes
  let tag ← Bytes.Base64.urlSafe.decode? tag
  return (bytes, tag)

/-- The metadata as a text. -/
def text (signed : SignedMetadata) : String :=
  String.ofList (join signed.payload.toBytes signed.tag)

/-- The payload with the tag that a scheme computes. -/
def sign (scheme : SignatureScheme) (payload : Payload) : Except TokenError SignedMetadata := do
  let tag ← scheme.sign payload.toBytes
  return ⟨payload, tag⟩

/-- The payload of a text whose tag a scheme accepts. -/
def verify (scheme : SignatureScheme) (text : String) : Except TokenError Payload :=
  match split? text.toList with
  | none => .error .signatureMismatch
  | some (bytes, tag) => do
    scheme.verify bytes tag
    match Payload.ofBytes? bytes with
    | none => .error .signatureMismatch
    | some payload => .ok payload

end SignedMetadata

end TokenMint
