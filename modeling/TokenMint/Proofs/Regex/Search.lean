import Mathlib.Algebra.Group.Nat.Defs
import Mathlib.Data.List.Induction
import TokenMint.Regex.Compose
import TokenMint.Regex.Search

/-!
# Searching for a sequence

A search for a sequence sends the set of all positions through the parts of the sequence, one after
the other (`run_sequence`). No part makes a position out of nothing (`Plan.run_zero`), so a search
that finds anything has a position left after each part. After the start of the text and some
letters there is only one position that can be left, the one behind the letters, and then the text
begins with them (`exists_eq_append_of_anchored`).

What a part does not do without is kept by a repetition that asks for at least one copy
(`Requires.repetition`).
-/

set_option autoImplicit false
set_option relaxedAutoImplicit false

namespace TokenMint.Regex

/-! ### The empty set of positions -/

theorem stops_zero (rows : Array Nat) (members : Nat) : stops rows members 0 = 0 := by
  cases members <;> simp [stops]

theorem iterate_zero {step : Nat → Nat} (hstep : step 0 = 0) (count : Nat) :
    iterate step count 0 = 0 := by
  cases count <;> simp [iterate, hstep]

theorem gather_zero (step : Nat → Nat) (count : Nat) : gather step count 0 0 = 0 := by
  cases count <;> simp [gather]

theorem reached_zero (rows : Array Nat) (members : Nat) : reached rows members 0 0 = 0 := by
  cases members <;> simp [reached]

/-- Nothing stops if nothing starts. -/
@[simp]
theorem Plan.run_zero (plan : Plan) : plan.run 0 = 0 := by
  induction plan with
  | empty => rfl
  | one places => simp [run]
  | look places => simp [run]
  | append first second hfirst hsecond => rw [run, hfirst, hsecond]
  | either first second hfirst hsecond => rw [run, hfirst, hsecond, Nat.zero_or]
  | power rows count => exact iterate_zero (stops_zero rows rows.size) count
  | upTo rows count => exact gather_zero _ count
  | star rows => exact reached_zero rows rows.size

/-! ### Sequences -/

/-- The positions that are left of a set after several expressions in a row. -/
def runAll (text : List Char) (items : List Expression) (places : Nat) : Nat :=
  items.foldl (fun places item ↦ (fit text item).run places) places

variable {text : List Char}

theorem runAll_cons (item : Expression) (rest : List Expression) (places : Nat) :
    runAll text (item :: rest) places = runAll text rest ((fit text item).run places) := rfl

theorem runAll_append (first second : List Expression) (places : Nat) :
    runAll text (first ++ second) places = runAll text second (runAll text first places) :=
  List.foldl_append

theorem runAll_zero (items : List Expression) : runAll text items 0 = 0 := by
  induction items with
  | nil => rfl
  | cons item rest ih => rw [runAll_cons, Plan.run_zero, ih]

theorem ne_zero_of_runAll {items : List Expression} {places : Nat}
    (hleft : runAll text items places ≠ 0) : places ≠ 0 := by
  rintro rfl
  exact hleft (runAll_zero items)

theorem run_appendAll (items : List Expression) (places : Nat) :
    (fit text (Expression.appendAll items)).run places = runAll text items places := by
  induction items generalizing places with
  | nil => rfl
  | cons first rest ih =>
    cases rest with
    | nil => rfl
    | cons second others => exact ih _

theorem runAll_parts (item : Expression) (places : Nat) :
    runAll text item.parts places = (fit text item).run places := by
  induction item generalizing places with
  | append first second hfirst hsecond =>
    rw [Expression.parts, runAll_append, hfirst, hsecond]
    rfl
  | _ => rfl

theorem run_sequence (items : List Expression) (places : Nat) :
    (fit text (Expression.sequence items)).run places = runAll text items places := by
  rw [Expression.sequence, run_appendAll]
  induction items generalizing places with
  | nil => rfl
  | cons item rest ih => rw [List.flatMap_cons, runAll_append, runAll_parts, ih, runAll_cons]

/-! ### Bits of packed sets -/

/-- The number with the given bits, the highest first. -/
def ofBits (high : Nat) (bits : List Bool) : Nat :=
  bits.foldl (fun number bit ↦ 2 * number + bit.toNat) high

theorem shiftLeft_or_eq {gathered width : Nat} (hgathered : gathered < 2 ^ width) (places : Nat) :
    places <<< width ||| gathered = places * 2 ^ width + gathered := by
  rw [← Nat.shiftLeft_add_eq_or_of_lt hgathered, Nat.shiftLeft_eq]

theorem pack_eq_ofBits (bits : List Bool) :
    ∀ {places gathered width : Nat}, gathered < 2 ^ width →
      pack places gathered width bits = ofBits (places <<< width ||| gathered) bits := by
  induction bits with
  | nil => intro places gathered width _; rfl
  | cons bit rest ih =>
    intro places gathered width hgathered
    have hbit : bit.toNat < 2 := bit.toNat_lt
    rw [pack]
    split
    next =>
      have hnext : 2 * gathered + bit.toNat < 2 ^ (width + 1) := by rw [Nat.pow_succ]; omega
      rw [ih hnext, ofBits, ofBits, List.foldl_cons, shiftLeft_or_eq hnext,
        shiftLeft_or_eq hgathered, Nat.pow_succ, ← Nat.mul_assoc]
      congr 1
      omega
    next =>
      have hnext : bit.toNat < 2 ^ 1 := by simpa using hbit
      rw [ih hnext, ofBits, ofBits, List.foldl_cons, shiftLeft_or_eq hnext]
      congr 1
      omega

/-- The last bit of a list is bit zero. -/
theorem testBit_ofBits (bits : List Bool) (place : Nat) :
    (ofBits 0 bits).testBit place = bits.reverse.getD place false := by
  induction bits using List.reverseRecOn generalizing place with
  | nil => simp [ofBits]
  | append_singleton front bit ih =>
    have hlast : ofBits 0 (front ++ [bit]) = 2 * ofBits 0 front + bit.toNat := by
      rw [ofBits, List.foldl_append]
      rfl
    rw [hlast, List.reverse_append]
    cases place with
    | zero => cases bit <;> simp [Nat.testBit_zero, Nat.add_mod]
    | succ place =>
      have hbit : bit.toNat < 2 := bit.toNat_lt
      rw [Nat.testBit_succ, show (2 * ofBits 0 front + bit.toNat) / 2 = ofBits 0 front by omega, ih]
      rfl

theorem testBit_pack (bits : List Bool) (place : Nat) :
    (pack 0 0 0 bits).testBit place = bits.reverse.getD place false := by
  rw [pack_eq_ofBits bits (by decide : 0 < 2 ^ 0)]
  exact testBit_ofBits bits place

/-! ### Letters -/

/-- A position that a set is left at has a character of the set before it. -/
theorem exists_suffix_of_placesAfter {set : CharSet} {after : Nat}
    (hplace : (placesAfter set text).testBit after = true) :
    ∃ c rest, c :: rest <:+ text ∧ rest.length = after ∧ set.contains c = true := by
  rw [placesAfter, testBit_pack, ← List.map_reverse, List.getD_eq_getElem?_getD,
    List.getElem?_map] at hplace
  cases hchar : text.reverse[after]? with
  | none => simp [hchar] at hplace
  | some c =>
    obtain ⟨hafter, hget⟩ := List.getElem?_eq_some_iff.1 hchar
    rw [List.length_reverse] at hafter
    rw [List.getElem_reverse] at hget
    have hsplit : c :: text.drop (text.length - after) = text.drop (text.length - 1 - after) := by
      rw [← hget, List.drop_eq_getElem_cons (i := text.length - 1 - after) (by omega)]
      congr 2
      omega
    refine ⟨c, text.drop (text.length - after), hsplit ▸ List.drop_suffix _ _, ?_, ?_⟩
    · rw [List.length_drop]
      omega
    · simpa [hchar] using hplace

/-- The text starts at one position only. -/
theorem eq_length_of_placesOfLook_textStart {place : Nat}
    (hplace : (placesOfLook .textStart text).testBit place = true) : place = text.length := by
  have hinside : ∀ (before : Char) (rest : List Char),
      holdsAt .textStart (some before) rest = List.replicate (rest.length + 1) false := by
    intro before rest
    induction rest generalizing before with
    | nil => rfl
    | cons c rest ih => rw [holdsAt, ih, List.length_cons, List.replicate_succ]; rfl
  have hall : holdsAt .textStart none text = true :: List.replicate text.length false := by
    cases text with
    | nil => rfl
    | cons c rest => rw [holdsAt, hinside]; rfl
  rw [placesOfLook, testBit_pack, hall, List.reverse_cons, List.reverse_replicate,
    List.getD_eq_getElem?_getD, List.getElem?_append, List.length_replicate] at hplace
  split at hplace
  next hlt => simp [hlt] at hplace
  next hge =>
    rw [List.getElem?_singleton] at hplace
    split at hplace
    · omega
    · simp at hplace

/-- Whether a set of positions has none but the one before the given end of the text. -/
def StandsBefore (places : Nat) (rest : List Char) : Prop :=
  ∀ after, places.testBit after = true → after = rest.length

/-- Whether nothing is left after an expression of positions none of which is before the given
character. -/
def Requires (text : List Char) (c : Char) (item : Expression) : Prop :=
  ∀ places, (fit text item).run places ≠ 0 →
    ∃ rest, places.testBit (rest.length + 1) = true ∧ c :: rest <:+ text

theorem exists_of_testBit_letter {c : Char} {places after : Nat}
    (hafter : ((fit text (.one (CharSet.single c))).run places).testBit after = true) :
    ∃ rest, places.testBit (rest.length + 1) = true ∧ c :: rest <:+ text ∧ rest.length = after := by
  rw [fit, Plan.run, Nat.testBit_and, Bool.and_eq_true, Nat.testBit_shiftRight] at hafter
  obtain ⟨other, rest, hsuffix, hlength, hcontains⟩ := exists_suffix_of_placesAfter hafter.2
  have hsame : other = c := by
    simp only [CharSet.contains, CharSet.hasCode, CharSet.single, List.any_cons, List.any_nil,
      Bool.or_false, Bool.and_eq_true, decide_eq_true_eq] at hcontains
    exact Char.toNat_inj.1 (by omega)
  refine ⟨rest, ?_, hsame ▸ hsuffix, hlength⟩
  rw [hlength, Nat.add_comm]
  exact hafter.1

theorem requires_letter (c : Char) : Requires text c (.one (CharSet.single c)) := by
  intro places hleft
  obtain ⟨after, hafter⟩ := Nat.exists_testBit_of_ne_zero hleft
  obtain ⟨rest, hplace, hsuffix, -⟩ := exists_of_testBit_letter hafter
  exact ⟨rest, hplace, hsuffix⟩

theorem eq_of_suffix_of_length {first second : List Char} (hfirst : first <:+ text)
    (hsecond : second <:+ text) (hlength : first.length = second.length) : first = second :=
  (List.suffix_of_suffix_length_le hfirst hsecond (Nat.le_of_eq hlength)).eq_of_length hlength

/-- From one position on, something is left after what requires a character only if this comes
next. -/
theorem Requires.exists_eq_cons {c : Char} {item : Expression} (hitem : Requires text c item)
    {places : Nat} {rest : List Char} (hrest : rest <:+ text) (hplaces : StandsBefore places rest)
    (hleft : (fit text item).run places ≠ 0) : ∃ rest', rest = c :: rest' := by
  obtain ⟨rest', hplace, hsuffix⟩ := hitem places hleft
  exact ⟨rest', eq_of_suffix_of_length hrest hsuffix (hplaces _ hplace).symm⟩

/-- From one position on, something is left after letters only if these come next, and then it is
the position behind them. -/
theorem exists_eq_append_of_letters (letters : List Char) {places : Nat} {rest : List Char}
    (hrest : rest <:+ text) (hplaces : StandsBefore places rest)
    (hleft : runAll text (letters.map fun c ↦ .one (CharSet.single c)) places ≠ 0) :
    ∃ rest', rest = letters ++ rest' ∧
      StandsBefore (runAll text (letters.map fun c ↦ .one (CharSet.single c)) places) rest' := by
  induction letters generalizing places rest with
  | nil => exact ⟨rest, rfl, hplaces⟩
  | cons c others ih =>
    rw [List.map_cons, runAll_cons] at hleft ⊢
    obtain ⟨next, rfl⟩ :=
      (requires_letter c).exists_eq_cons hrest hplaces (ne_zero_of_runAll hleft)
    have hnext : StandsBefore ((fit text (.one (CharSet.single c))).run places) next := by
      intro after hafter
      obtain ⟨behind, hplace, -, rfl⟩ := exists_of_testBit_letter hafter
      exact Nat.succ.inj (hplaces _ hplace)
    obtain ⟨rest', rfl, hrest'⟩ := ih ((List.suffix_cons c next).trans hrest) hnext hleft
    exact ⟨rest', rfl, hrest'⟩

/-- Something is left behind the start of the text and letters only if the text begins with
them. -/
theorem exists_eq_append_of_anchored (letters : List Char) {places : Nat}
    (hleft : runAll text (.look .textStart :: letters.map fun c ↦ .one (CharSet.single c))
      places ≠ 0) :
    ∃ rest, text = letters ++ rest ∧ StandsBefore
      (runAll text (.look .textStart :: letters.map fun c ↦ .one (CharSet.single c)) places)
      rest := by
  have hstart : StandsBefore ((fit text (.look .textStart)).run places) text := by
    intro after hafter
    rw [fit, Plan.run, Nat.testBit_and, Bool.and_eq_true] at hafter
    exact eq_length_of_placesOfLook_textStart hafter.2
  exact exists_eq_append_of_letters letters List.suffix_rfl hstart hleft

/-! ### Repetitions -/

theorem exists_of_stops_ne_zero {rows : Array Nat} {members places : Nat}
    (hleft : stops rows members places ≠ 0) :
    ∃ place, places.testBit place = true ∧ rows.getD place 0 ≠ 0 := by
  induction members generalizing places with
  | zero => exact absurd rfl hleft
  | succ members ih =>
    rw [stops] at hleft
    split at hleft
    next => exact absurd rfl hleft
    next hplaces =>
      by_cases hrow : rows.getD places.log2 0 = 0
      · rw [hrow, Nat.zero_or] at hleft
        obtain ⟨place, hplace, hstop⟩ := ih hleft
        rw [without, Nat.testBit_xor, Nat.testBit_and] at hplace
        refine ⟨place, ?_, hstop⟩
        cases hbit : places.testBit place with
        | true => rfl
        | false => simp [hbit] at hplace
      · exact ⟨places.log2, Nat.testBit_log2 hplaces, hrow⟩

theorem ne_zero_of_iterate {step : Nat → Nat} (hstep : step 0 = 0) {count places : Nat}
    (hcount : 0 < count) (hleft : iterate step count places ≠ 0) : step places ≠ 0 := by
  obtain ⟨count, rfl⟩ := Nat.exists_eq_succ_of_ne_zero (Nat.ne_of_gt hcount)
  rw [iterate] at hleft
  intro hzero
  split at hleft
  next hsame => exact hleft (hsame ▸ hzero)
  next => exact hleft (by rw [hzero, iterate_zero hstep])

theorem Requires.repeated {c : Char} {body : Expression} (hbody : Requires text c body)
    {low : Nat} (hlow : 0 < low) (high : Option Nat) :
    Requires text c (.repeated body low high) := by
  intro places hleft
  let rows := (Array.range (text.length + 1)).map fun after ↦ (fit text body).run (position after)
  have hpower : iterate (stops rows rows.size) (min low (text.length + 1)) places ≠ 0 := by
    intro hzero
    refine hleft ?_
    change Plan.run _ (iterate (stops rows rows.size) (min low (text.length + 1)) places) = 0
    rw [hzero, Plan.run_zero]
  have hcopy := ne_zero_of_iterate (stops_zero rows rows.size) (by omega) hpower
  obtain ⟨place, hplace, hrow⟩ := exists_of_stops_ne_zero hcopy
  rw [Array.getD_eq_getD_getElem?, Array.getElem?_map] at hrow
  cases hget : (Array.range (text.length + 1))[place]? with
  | none => simp [hget] at hrow
  | some after =>
    obtain rfl : place = after := by
      obtain ⟨_, hget⟩ := Array.getElem?_eq_some_iff.1 hget
      simpa using hget
    rw [hget] at hrow
    obtain ⟨rest, hbit, hsuffix⟩ := hbody _ hrow
    obtain rfl : place = rest.length + 1 := by
      rw [position, Nat.one_shiftLeft, Nat.testBit_two_pow] at hbit
      simpa using hbit
    exact ⟨rest, hplace, hsuffix⟩

theorem Requires.repetition {c : Char} {body : Expression} (hbody : Requires text c body)
    {low : Nat} (hlow : 0 < low) (high : Option Nat) :
    Requires text c (body.repetition low high) := by
  have hcopies : ∀ (low : Nat) (high : Option Nat), 0 < low →
      Requires text c (if low = 0 ∧ high = some 0 then .empty
        else if low = 1 ∧ high = some 1 then body else .repeated body low high) := by
    intro low high hlow
    rw [if_neg fun hnone ↦ Nat.ne_of_gt hlow hnone.1]
    split
    · exact hbody
    · exact hbody.repeated hlow high
  refine hcopies _ _ ?_
  split
  · exact Nat.lt_min.2 ⟨hlow, Nat.one_pos⟩
  · exact hlow

end TokenMint.Regex
