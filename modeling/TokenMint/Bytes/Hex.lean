/-!
# Hexadecimal text

Each byte is written as two lowercase hexadecimal digits, the high half first. `decode?` is strict:
it reads exactly what `encode` writes (`decode?_encode`), so capital digits and an odd number of
digits are refused. `length_encode` is the length of the text.
-/

set_option autoImplicit false
set_option relaxedAutoImplicit false

namespace TokenMint.Bytes.Hex

/-- The lowercase digit of a number below sixteen. -/
def digit (n : Nat) : Char :=
  Nat.digitChar n

/-- The number that a lowercase digit stands for. -/
def value? (c : Char) : Option Nat :=
  if 48 ≤ c.toNat ∧ c.toNat ≤ 57 then some (c.toNat - 48)
  else if 97 ≤ c.toNat ∧ c.toNat ≤ 102 then some (c.toNat - 87)
  else none

/-- Two digits per byte. -/
def encode : List UInt8 → List Char
  | [] => []
  | byte :: rest => digit (byte.toNat / 16) :: digit (byte.toNat % 16) :: encode rest

/-- The bytes that a text of lowercase digit pairs stands for. -/
def decode? : List Char → Option (List UInt8)
  | [] => some []
  | [_] => none
  | high :: low :: rest => do
    let high ← value? high
    let low ← value? low
    let bytes ← decode? rest
    return UInt8.ofNat (16 * high + low) :: bytes

theorem length_encode (bytes : List UInt8) : (encode bytes).length = 2 * bytes.length := by
  induction bytes with
  | nil => rfl
  | cons byte rest ih =>
    simp only [encode, List.length_cons, ih]
    omega

theorem value?_digit (n : Nat) (hn : n < 16) : value? (digit n) = some n := by
  revert n
  decide

theorem decode?_encode (bytes : List UInt8) : decode? (encode bytes) = some bytes := by
  induction bytes with
  | nil => rfl
  | cons byte rest ih =>
    have hbyte := byte.toNat_lt
    rw [encode, decode?, value?_digit _ (by omega), value?_digit _ (by omega), ih]
    have hsum : 16 * (byte.toNat / 16) + byte.toNat % 16 = byte.toNat := by omega
    simp only [hsum, UInt8.ofNat_toNat, Option.bind_eq_bind, Option.bind_some, Option.pure_def]

end TokenMint.Bytes.Hex
