import TokenMint.Digest.Hmac
import TokenMint.Error

/-!
# Keyed signatures

A signing key is a non-empty sequence of bytes. A `SignatureScheme` computes the tag of some data
and checks a tag; the scheme of a key uses HMAC with SHA-256, never fails to sign, and accepts the
one tag that it would compute itself (`verify_keyed`).
-/

set_option autoImplicit false
set_option relaxedAutoImplicit false

namespace TokenMint

/-- A secret key. -/
structure SigningKey where
  /-- The bytes of the key. -/
  bytes : List UInt8
  ne_nil : bytes ≠ []
  deriving DecidableEq

namespace SigningKey

/-- The key of the given bytes, which must not be empty. -/
def ofBytes (bytes : List UInt8) : Except ConfigFault SigningKey :=
  if h : bytes = [] then .error .emptySigningKey else .ok ⟨bytes, h⟩

/-- How any key is shown, so that no key is ever disclosed. -/
def redacted (_key : SigningKey) : String :=
  "SigningKey(<redacted>)"

end SigningKey

/-- A way to compute and to check tags of data. -/
structure SignatureScheme where
  /-- What the scheme is called. -/
  name : String
  /-- The tag of some data. -/
  sign : List UInt8 → Except TokenError (List UInt8)
  /-- Whether the second argument is a tag of the first. -/
  verify : List UInt8 → List UInt8 → Except TokenError Unit

namespace SignatureScheme

/-- Nothing if the condition holds, and a mismatch otherwise. -/
def require (condition : Prop) [Decidable condition] : Except TokenError Unit :=
  if condition then .ok () else .error .signatureMismatch

/-- The scheme of a secret key. -/
def keyed (key : SigningKey) : SignatureScheme where
  name := "hmac-sha256"
  sign data := .ok (Digest.Hmac.tag key.bytes data)
  verify data tag := require (tag = Digest.Hmac.tag key.bytes data)

theorem require_eq_ok_iff (condition : Prop) [Decidable condition] :
    require condition = .ok () ↔ condition := by
  by_cases h : condition <;> simp [require, h]

/-- Under a key a tag is accepted exactly if it is the tag of the data. -/
theorem verify_keyed (key : SigningKey) (data tag : List UInt8) :
    (keyed key).verify data tag = .ok () ↔ tag = Digest.Hmac.tag key.bytes data :=
  require_eq_ok_iff _

end SignatureScheme

end TokenMint
