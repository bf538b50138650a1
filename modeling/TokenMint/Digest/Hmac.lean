import TokenMint.Bytes.Hex
import TokenMint.Bytes.Utf8
import TokenMint.Digest.Sha256

/-!
# HMAC-SHA256

The keyed digest of RFC 2104 over SHA-256. A key longer than a block is hashed first, a shorter one
is filled up with zero bytes; the key is then mixed into an inner and an outer digest.
-/

set_option autoImplicit false
set_option relaxedAutoImplicit false

namespace TokenMint.Digest.Hmac

open Sha256

/-- The key as exactly one block. -/
def blockKey (key : List UInt8) : List UInt8 :=
  let short := if blockSize < key.length then digest key else key
  short ++ List.replicate (blockSize - short.length) 0

/-- The tag of a message under a key. -/
def tag (key message : List UInt8) : List UInt8 :=
  let block := blockKey key
  let inner := digest (block.map (· ^^^ 0x36) ++ message)
  digest (block.map (· ^^^ 0x5c) ++ inner)

-- a published test vector
example :
    some (tag (Bytes.Utf8.ofText "Jefe") (Bytes.Utf8.ofText "what do ya want for nothing?")) =
      Bytes.Hex.decode?
        "5bdcc146bf60754e6a042426089575c75a003f089d2739839dec58b964ec3843".toList := by
  decide +kernel

end TokenMint.Digest.Hmac
