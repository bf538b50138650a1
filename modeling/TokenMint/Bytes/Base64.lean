/-!
# Base64 text

Three bytes are written as four digits of six bits each. The standard alphabet ends in `+` and `/`
and fills the last group with `=`; the URL-safe one ends in `-` and `_` and writes no padding.
`decode?` is strict: it refuses characters outside the alphabet, wrong or missing padding and
unused bits that are not zero, so it reads exactly what `encode` writes.
-/

set_option autoImplicit false
set_option relaxedAutoImplicit false

namespace TokenMint.Bytes

/-- The two alphabets of base64 text. -/
inductive Base64 where
  /-- The alphabet that ends in `+` and `/`, padded with `=`. -/
  | standard
  /-- The alphabet that ends in `-` and `_`, without padding. -/
  | urlSafe
  deriving DecidableEq

namespace Base64

/-- The padding character. -/
def pad : Char := '='

/-- The digit of a number below sixty-four. -/
def digit (variant : Base64) (n : Nat) : Char :=
  if n < 26 then Char.ofNat (65 + n)
  else if n < 52 then Char.ofNat (71 + n)
  else if n < 62 then Char.ofNat (n - 4)
  else
    match variant, n with
    | .standard, 62 => '+'
    | .standard, _ => '/'
    | .urlSafe, 62 => '-'
    | .urlSafe, _ => '_'

/-- The number that a digit stands for. -/
def value? (variant : Base64) (c : Char) : Option Nat :=
  if 65 ≤ c.toNat ∧ c.toNat ≤ 90 then some (c.toNat - 65)
  else if 97 ≤ c.toNat ∧ c.toNat ≤ 122 then some (c.toNat - 71)
  else if 48 ≤ c.toNat ∧ c.toNat ≤ 57 then some (c.toNat + 4)
  else
    match variant with
    | .standard => if c = '+' then some 62 else if c = '/' then some 63 else none
    | .urlSafe => if c = '-' then some 62 else if c = '_' then some 63 else none

/-- The six-bit numbers of a byte string, the last one filled up with zero bits. -/
def sextets : List UInt8 → List Nat
  | [] => []
  | [a] => [a.toNat / 4, a.toNat % 4 * 16]
  | [a, b] => [a.toNat / 4, a.toNat % 4 * 16 + b.toNat / 16, b.toNat % 16 * 4]
  | a :: b :: c :: rest =>
    a.toNat / 4 :: (a.toNat % 4 * 16 + b.toNat / 16) :: (b.toNat % 16 * 4 + c.toNat / 64) ::
      c.toNat % 64 :: sextets rest

/-- The bytes of a list of six-bit numbers, if the bits left over at its end are zero. -/
def ofSextets? : List Nat → Option (List UInt8)
  | [] => some []
  | [_] => none
  | [s, t] => if t % 16 = 0 then some [UInt8.ofNat (s * 4 + t / 16)] else none
  | [s, t, u] =>
    if u % 4 = 0 then
      some [UInt8.ofNat (s * 4 + t / 16), UInt8.ofNat (t % 16 * 16 + u / 4)]
    else
      none
  | s :: t :: u :: v :: rest =>
    (ofSextets? rest).map fun bytes ↦
      UInt8.ofNat (s * 4 + t / 16) :: UInt8.ofNat (t % 16 * 16 + u / 4) ::
        UInt8.ofNat (u % 4 * 64 + v) :: bytes

/-- The padding after the digits of so many bytes. -/
def padding (variant : Base64) (count : Nat) : List Char :=
  match variant with
  | .standard => List.replicate ((3 - count % 3) % 3) pad
  | .urlSafe => []

/-- The text of a byte string. -/
def encode (variant : Base64) (bytes : List UInt8) : List Char :=
  (sextets bytes).map variant.digit ++ variant.padding bytes.length

/-- The byte string of a text, if the text is well formed. -/
def decode? (variant : Base64) (text : List Char) : Option (List UInt8) := do
  let body := text.takeWhile (· != pad)
  let bytes ← ofSextets? (← body.mapM variant.value?)
  if body ++ variant.padding bytes.length = text then some bytes else none

end Base64

end TokenMint.Bytes
