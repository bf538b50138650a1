import TokenMint.Bytes.Base64

/-!
# Base64 texts and the bytes they stand for

Every byte string has exactly one base64 text, the one that `encode` writes: `decode?` reads it back
(`Base64.decode?_encode`) and reads nothing else (`Base64.eq_encode_of_decode?`). Both directions
come from the six-bit numbers in between. Each of them has one digit, and the groups of four take
bytes apart and put them together again, also where the last group is short and its unused bits have
to be zero. How long a text is depends on the number of bytes alone (`length_encode_urlSafe`,
`length_encode_standard`).
-/

set_option autoImplicit false
set_option relaxedAutoImplicit false

namespace TokenMint.Bytes.Base64

/-! ### Digits -/

theorem value?_digit (variant : Base64) {n : Nat} (hn : n < 64) :
    value? variant (digit variant n) = some n := by
  revert n
  cases variant <;> decide

theorem digit_ne_pad (variant : Base64) {n : Nat} (hn : n < 64) : digit variant n ≠ pad := by
  revert n
  cases variant <;> decide

/-- The digits of an alphabet, in the order of the numbers that they stand for. -/
def digits : Base64 → String
  | standard => "ABCDEFGHIJKLMNOPQRSTUVWXYZabcdefghijklmnopqrstuvwxyz0123456789+/"
  | urlSafe => "ABCDEFGHIJKLMNOPQRSTUVWXYZabcdefghijklmnopqrstuvwxyz0123456789-_"

theorem getElem?_digits (variant : Base64) {n : Nat} (hn : n < 64) :
    variant.digits.toList[n]? = some (variant.digit n) := by
  revert n
  cases variant <;> decide +kernel

/-- A digit stands for a number below sixty-four, and it is the digit of this number. -/
theorem digit_of_value? {variant : Base64} {c : Char} {n : Nat}
    (hvalue : value? variant c = some n) : n < 64 ∧ digit variant n = c := by
  have hchar : Char.ofNat c.toNat = c := Char.ofNat_toNat c
  unfold value? at hvalue
  split at hvalue
  next hupper =>
    obtain rfl := Option.some.inj hvalue
    refine ⟨by omega, ?_⟩
    rw [digit.eq_def, if_pos (by omega), show 65 + (c.toNat - 65) = c.toNat by omega, hchar]
  next =>
    split at hvalue
    next hlower =>
      obtain rfl := Option.some.inj hvalue
      refine ⟨by omega, ?_⟩
      rw [digit.eq_def, if_neg (by omega), if_pos (by omega),
        show 71 + (c.toNat - 71) = c.toNat by omega, hchar]
    next =>
      split at hvalue
      next hdecimal =>
        obtain rfl := Option.some.inj hvalue
        refine ⟨by omega, ?_⟩
        rw [digit.eq_def, if_neg (by omega), if_neg (by omega), if_pos (by omega),
          show c.toNat + 4 - 4 = c.toNat by omega, hchar]
      next =>
        -- What is left are the two signs in which the alphabets differ.
        cases variant <;> grind [digit]

/-! ### Six-bit numbers -/

theorem sextets_lt (bytes : List UInt8) : ∀ n ∈ sextets bytes, n < 64 := by
  fun_induction sextets bytes with
  | case1 => simp
  | case2 a =>
    have ha := a.toNat_lt
    simp only [List.mem_cons, List.not_mem_nil, or_false]
    omega
  | case3 a b =>
    have ha := a.toNat_lt
    have hb := b.toNat_lt
    simp only [List.mem_cons, List.not_mem_nil, or_false]
    omega
  | case4 a b c rest ih =>
    have ha := a.toNat_lt
    have hb := b.toNat_lt
    have hc := c.toNat_lt
    simp only [List.mem_cons]
    rintro n (rfl | rfl | rfl | rfl | hn)
    · omega
    · omega
    · omega
    · omega
    · exact ih n hn

theorem length_sextets (bytes : List UInt8) :
    (sextets bytes).length = (bytes.length * 4 + 2) / 3 := by
  fun_induction sextets bytes with
  | case1 => rfl
  | case2 => simp
  | case3 => simp
  | case4 a b c rest ih =>
    simp only [List.length_cons, ih]
    omega

/-- A byte that is put together from the parts it was taken into. -/
theorem ofNat_eq_of_toNat_eq (byte : UInt8) {n : Nat} (hn : n = byte.toNat) :
    UInt8.ofNat n = byte := by
  rw [hn, UInt8.ofNat_toNat]

theorem ofSextets?_sextets (bytes : List UInt8) : ofSextets? (sextets bytes) = some bytes := by
  fun_induction sextets bytes with
  | case1 => rfl
  | case2 a =>
    rw [ofSextets?, if_pos (by omega), ofNat_eq_of_toNat_eq a (by omega)]
  | case3 a b =>
    have hb := b.toNat_lt
    rw [ofSextets?, if_pos (by omega), ofNat_eq_of_toNat_eq a (by omega),
      ofNat_eq_of_toNat_eq b (by omega)]
  | case4 a b c rest ih =>
    have hb := b.toNat_lt
    have hc := c.toNat_lt
    rw [ofSextets?, ih, Option.map_some, ofNat_eq_of_toNat_eq a (by omega),
      ofNat_eq_of_toNat_eq b (by omega), ofNat_eq_of_toNat_eq c (by omega)]

theorem sextets_of_ofSextets? {numbers : List Nat} {bytes : List UInt8}
    (hnumbers : ∀ n ∈ numbers, n < 64) (hread : ofSextets? numbers = some bytes) :
    sextets bytes = numbers := by
  fun_induction ofSextets? numbers generalizing bytes with
  | case1 =>
    obtain rfl := Option.some.inj hread
    rfl
  | case2 => simp at hread
  | case3 s t hzero =>
    obtain rfl := Option.some.inj hread
    simp only [List.forall_mem_cons] at hnumbers
    simp only [sextets, UInt8.toNat_ofNat', List.cons.injEq, and_true]
    omega
  | case4 => simp at hread
  | case5 s t u hzero =>
    obtain rfl := Option.some.inj hread
    simp only [List.forall_mem_cons] at hnumbers
    simp only [sextets, UInt8.toNat_ofNat', List.cons.injEq, and_true]
    omega
  | case6 => simp at hread
  | case7 s t u v rest ih =>
    obtain ⟨others, hothers, rfl⟩ := Option.map_eq_some_iff.1 hread
    simp only [List.forall_mem_cons] at hnumbers
    obtain ⟨hs, ht, hu, hv, hrest⟩ := hnumbers
    simp only [sextets, UInt8.toNat_ofNat', ih hrest hothers, List.cons.injEq, and_true]
    omega

/-! ### Texts -/

theorem length_encode_urlSafe (bytes : List UInt8) :
    (urlSafe.encode bytes).length = (bytes.length * 4 + 2) / 3 := by
  rw [encode, padding, List.append_nil, List.length_map, length_sextets]

theorem length_encode_standard (bytes : List UInt8) :
    (standard.encode bytes).length = (bytes.length + 2) / 3 * 4 := by
  rw [encode, padding, List.length_append, List.length_map, length_sextets, List.length_replicate]
  omega

/-- What stands before the padding are digits of the alphabet. -/
theorem mem_digits_of_mem_map (variant : Base64) (bytes : List UInt8) {c : Char}
    (hc : c ∈ (sextets bytes).map variant.digit) : c ∈ variant.digits.toList := by
  obtain ⟨n, hn, rfl⟩ := List.mem_map.1 hc
  exact List.mem_of_getElem? (getElem?_digits variant (sextets_lt bytes n hn))

theorem takeWhile_encode (variant : Base64) (bytes : List UInt8) :
    (variant.encode bytes).takeWhile (· != pad) = (sextets bytes).map variant.digit := by
  have hdigits : ∀ c ∈ (sextets bytes).map variant.digit, (c != pad) = true := by
    intro c hc
    obtain ⟨n, hn, rfl⟩ := List.mem_map.1 hc
    exact bne_iff_ne.2 (digit_ne_pad variant (sextets_lt bytes n hn))
  rw [encode, List.takeWhile_append_of_pos hdigits]
  cases variant <;> simp [padding]

theorem mapM_value?_digits (variant : Base64) {numbers : List Nat}
    (hnumbers : ∀ n ∈ numbers, n < 64) :
    (numbers.map variant.digit).mapM variant.value? = some numbers := by
  induction numbers with
  | nil => rfl
  | cons n rest ih =>
    obtain ⟨hn, hrest⟩ := List.forall_mem_cons.1 hnumbers
    simp [value?_digit variant hn, ih hrest]

/-- Digits that can all be read are the digits of the numbers that are read. -/
theorem digits_of_mapM_value? {variant : Base64} {text : List Char} {numbers : List Nat}
    (hread : text.mapM variant.value? = some numbers) :
    (∀ n ∈ numbers, n < 64) ∧ numbers.map variant.digit = text := by
  induction text generalizing numbers with
  | nil =>
    obtain rfl : [] = numbers := by simpa using hread
    simp
  | cons c rest ih =>
    rw [List.mapM_cons] at hread
    obtain ⟨n, hn, hread⟩ := Option.bind_eq_some_iff.1 hread
    obtain ⟨others, hothers, hread⟩ := Option.bind_eq_some_iff.1 hread
    obtain rfl := Option.some.inj hread
    obtain ⟨hlt, hdigit⟩ := digit_of_value? hn
    obtain ⟨hrest, hdigits⟩ := ih hothers
    exact ⟨List.forall_mem_cons.2 ⟨hlt, hrest⟩, by rw [List.map_cons, hdigit, hdigits]⟩

/-- What is written is read back. -/
theorem decode?_encode (variant : Base64) (bytes : List UInt8) :
    variant.decode? (variant.encode bytes) = some bytes := by
  have hread := mapM_value?_digits variant (sextets_lt bytes)
  simp only [decode?, takeWhile_encode, hread, ofSextets?_sextets, Option.bind_eq_bind,
    Option.bind_some]
  exact if_pos rfl

/-- Nothing else is read. -/
theorem eq_encode_of_decode? {variant : Base64} {text : List Char} {bytes : List UInt8}
    (hread : variant.decode? text = some bytes) : text = variant.encode bytes := by
  simp only [decode?, Option.bind_eq_bind] at hread
  obtain ⟨numbers, hnumbers, hread⟩ := Option.bind_eq_some_iff.1 hread
  obtain ⟨decoded, hdecoded, hread⟩ := Option.bind_eq_some_iff.1 hread
  split at hread
  next htext =>
    obtain rfl := Option.some.inj hread
    obtain ⟨hlt, hdigits⟩ := digits_of_mapM_value? hnumbers
    rw [← htext, encode, sextets_of_ofSextets? hlt hdecoded, hdigits]
  next => simp at hread

/-- The URL-safe text of bytes holds digits only. -/
theorem not_mem_encode_urlSafe {c : Char} (hc : value? urlSafe c = none) (bytes : List UInt8) :
    c ∉ urlSafe.encode bytes := by
  intro hmem
  rw [encode, padding, List.append_nil] at hmem
  obtain ⟨n, hn, rfl⟩ := List.mem_map.1 hmem
  rw [value?_digit urlSafe (sextets_lt bytes n hn)] at hc
  cases hc

end TokenMint.Bytes.Base64
