import TokenMint.Error

/-!
# Sources of random bytes

An `EntropySource` is a stream of bytes that is drawn in pieces, together with the draws that fail.
Draws are numbered from one. A draw has two steps: `EntropyUse.announce` gives it its number and
records how many bytes it asks for, and `EntropySource.draw` takes the bytes from where the last
successful draw stopped, or fails and takes none. What is taken has the size that was asked for
(`length_of_draw`). Two kinds of source repeat themselves, so that a run can be replayed.
-/

set_option autoImplicit false
set_option relaxedAutoImplicit false

namespace TokenMint

/-- Where random bytes come from. -/
structure EntropySource where
  /-- What the source is called. -/
  name : String
  /-- The bytes at a position of the stream, as many as asked for. -/
  read : (position size : Nat) → List UInt8
  /-- Why the draw of the given number fails, if it does. -/
  failure : (number : Nat) → Option TokenError
  length_read : ∀ position size, (read position size).length = size

/-- How much of a source has been used. -/
structure EntropyUse where
  /-- The number of bytes that were taken. -/
  taken : Nat
  /-- How many bytes each draw asked for, the first draw first. -/
  requests : List Nat
  deriving DecidableEq

namespace EntropyUse

/-- A source that has not been used. -/
def none : EntropyUse :=
  ⟨0, []⟩

/-- The number of the next draw, and the use after it has asked for bytes. -/
def announce (use : EntropyUse) (size : Nat) : Nat × EntropyUse :=
  (use.requests.length + 1, { use with requests := use.requests ++ [size] })

end EntropyUse

namespace EntropySource

/-- The bytes of an announced draw, and the use after it. -/
def draw (source : EntropySource) (number size : Nat) (use : EntropyUse) :
    Except TokenError (List UInt8) × EntropyUse :=
  match source.failure number with
  | some error => (.error error, use)
  | none => (.ok (source.read use.taken size), { use with taken := use.taken + size })

theorem length_of_draw {source : EntropySource} {number size : Nat} {use : EntropyUse}
    {bytes : List UInt8} (hdraw : (source.draw number size use).1 = .ok bytes) :
    bytes.length = size := by
  unfold draw at hdraw
  split at hdraw
  · simp at hdraw
  · obtain rfl := Except.ok.inj hdraw
    exact source.length_read _ _

/-- The source of the operating system, which yields whatever the system yields. -/
def system (read : (position size : Nat) → List UInt8)
    (length_read : ∀ position size, (read position size).length = size) : EntropySource :=
  ⟨"os", read, fun _ ↦ .none, length_read⟩

/-! ### Sources that can be replayed -/

/-- The reason why the draw of a number fails, if the number is in the list. -/
def plannedFailure (failing : List Nat) (number : Nat) : Option TokenError :=
  if number ∈ failing then
    some (.entropyUnavailable ("fill " ++ Nat.repr number ++ " failed"))
  else none

/-- The byte at a position of a cycle of bytes. -/
def cycleByte (cycle : List UInt8) (position : Nat) : UInt8 :=
  cycle.getD (position % cycle.length) 0

/-- A source that repeats a cycle of bytes. -/
def cyclic (cycle : List UInt8) (failing : List Nat) : EntropySource where
  name := "scripted"
  read position size := (List.range size).map fun i ↦ cycleByte cycle (position + i)
  failure := plannedFailure failing
  length_read := by simp

/-- The next state of the linear congruential sequence. -/
def congruentialStep (state : UInt32) : UInt32 :=
  state * 1664525 + 1013904223

/-- The state after so many steps. -/
def congruentialState : Nat → UInt32 → UInt32
  | 0, state => state
  | count + 1, state => congruentialState count (congruentialStep state)

/-- The high bytes of the states after the given one. -/
def congruentialBytes : Nat → UInt32 → List UInt8
  | 0, _ => []
  | count + 1, state =>
    let next := congruentialStep state
    (next >>> 24).toUInt8 :: congruentialBytes count next

theorem length_congruentialBytes (count : Nat) (state : UInt32) :
    (congruentialBytes count state).length = count := by
  induction count generalizing state with
  | zero => rfl
  | succ count ih => simp [congruentialBytes, ih]

/-- A source that computes its bytes from a seed. -/
def congruential (seed : UInt32) (failing : List Nat) : EntropySource where
  name := "scripted"
  read position size := congruentialBytes size (congruentialState position seed)
  failure := plannedFailure failing
  length_read _ size := length_congruentialBytes size _

end EntropySource

end TokenMint
