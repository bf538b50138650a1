import TokenMint.Bytes.Hex

/-!
# Hexadecimal texts and the bytes they stand for

Every byte string has exactly one hexadecimal text: `decode?` reads nothing but what `encode` writes
(`Hex.eq_encode_of_decode?`), and what is written are lowercase digits
(`Hex.mem_digits_of_mem_encode`).
-/

set_option autoImplicit false
set_option relaxedAutoImplicit false

namespace TokenMint.Bytes.Hex

/-- The digits, in the order of the numbers that they stand for. -/
def digits : String :=
  "0123456789abcdef"

theorem getElem?_digits {n : Nat} (hn : n < 16) : digits.toList[n]? = some (digit n) := by
  revert n
  decide +kernel

theorem digit_eq_ofNat {n : Nat} (hn : n < 16) :
    digit n = Char.ofNat (if n < 10 then 48 + n else 87 + n) := by
  revert n
  decide

/-- A digit stands for a number below sixteen, and it is the digit of this number. -/
theorem digit_of_value? {c : Char} {n : Nat} (hvalue : value? c = some n) :
    n < 16 ∧ digit n = c := by
  have hchar : Char.ofNat c.toNat = c := Char.ofNat_toNat c
  unfold value? at hvalue
  split at hvalue
  next hdecimal =>
    obtain rfl := Option.some.inj hvalue
    refine ⟨by omega, ?_⟩
    rw [digit_eq_ofNat (by omega), if_pos (by omega), show 48 + (c.toNat - 48) = c.toNat by omega,
      hchar]
  next =>
    split at hvalue
    next hletter =>
      obtain rfl := Option.some.inj hvalue
      refine ⟨by omega, ?_⟩
      rw [digit_eq_ofNat (by omega), if_neg (by omega), show 87 + (c.toNat - 87) = c.toNat by omega,
        hchar]
    next => cases hvalue

/-- Nothing but what is written is read. -/
theorem eq_encode_of_decode? {text : List Char} {bytes : List UInt8}
    (hread : decode? text = some bytes) : text = encode bytes := by
  fun_induction decode? text generalizing bytes with
  | case1 =>
    obtain rfl := Option.some.inj hread
    rfl
  | case2 => cases hread
  | case3 high low rest ih =>
    simp only [Option.bind_eq_bind, Option.pure_def] at hread
    obtain ⟨first, hfirst, hread⟩ := Option.bind_eq_some_iff.1 hread
    obtain ⟨second, hsecond, hread⟩ := Option.bind_eq_some_iff.1 hread
    obtain ⟨others, hothers, hread⟩ := Option.bind_eq_some_iff.1 hread
    obtain rfl := Option.some.inj hread
    obtain ⟨hfirstLt, rfl⟩ := digit_of_value? hfirst
    obtain ⟨hsecondLt, rfl⟩ := digit_of_value? hsecond
    have hbyte : (UInt8.ofNat (16 * first + second)).toNat = 16 * first + second :=
      UInt8.toNat_ofNat_of_lt' (by simp only [UInt8.size]; omega)
    rw [encode, hbyte, show (16 * first + second) / 16 = first by omega,
      show (16 * first + second) % 16 = second by omega, ih hothers]

theorem mem_digits_of_mem_encode {bytes : List UInt8} {c : Char} (hc : c ∈ encode bytes) :
    c ∈ digits.toList := by
  induction bytes with
  | nil => cases hc
  | cons byte rest ih =>
    have hbyte := byte.toNat_lt
    simp only [encode, List.mem_cons] at hc
    rcases hc with rfl | rfl | hc
    · exact List.mem_of_getElem? (getElem?_digits (by omega))
    · exact List.mem_of_getElem? (getElem?_digits (by omega))
    · exact ih hc

end TokenMint.Bytes.Hex
