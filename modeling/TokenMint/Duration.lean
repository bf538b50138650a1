/-!
# Durations

A `Duration` is a natural number of nanoseconds whose whole seconds fit in 64 bits. Instants are
durations since the Unix epoch, so that lifetimes can be added to them. Addition stops at the
largest duration: `nanoseconds_add` gives the sum, and `le_add` says that it never falls below the
first summand. An entry that lives until an instant is fresh strictly before it.
-/

set_option autoImplicit false
set_option relaxedAutoImplicit false

namespace TokenMint

/-- The number of nanoseconds in a second. -/
abbrev nanosecondsPerSecond : Nat := 1000000000

/-- The first number of nanoseconds that is no duration. -/
abbrev durationLimit : Nat := UInt64.size * nanosecondsPerSecond

/-- A span of time, or an instant as the span since the Unix epoch. -/
structure Duration where
  /-- The length in nanoseconds. -/
  nanoseconds : Nat
  /-- The whole seconds fit in 64 bits. -/
  lt_limit : nanoseconds < durationLimit
  deriving DecidableEq

namespace Duration

/-- The duration of so many nanoseconds, or the largest one if there are too many. -/
def ofNanoseconds (count : Nat) : Duration :=
  ⟨min count (durationLimit - 1), Nat.lt_of_le_of_lt (Nat.min_le_right _ _) (by decide)⟩

/-- The duration of so many seconds and nanoseconds. -/
def ofParts (seconds nanoseconds : Nat) : Duration :=
  ofNanoseconds (seconds * nanosecondsPerSecond + nanoseconds)

/-- The duration of so many seconds. -/
def ofSeconds (seconds : Nat) : Duration :=
  ofParts seconds 0

/-- The empty span. -/
def zero : Duration :=
  ofNanoseconds 0

instance : Inhabited Duration := ⟨zero⟩

/-- The whole seconds. -/
def seconds (duration : Duration) : Nat :=
  duration.nanoseconds / nanosecondsPerSecond

/-- The nanoseconds beyond the whole seconds. -/
def subsecond (duration : Duration) : Nat :=
  duration.nanoseconds % nanosecondsPerSecond

/-- The whole microseconds. -/
def microseconds (duration : Duration) : Nat :=
  duration.nanoseconds / 1000

/-- Whether the span is empty. -/
def isZero (duration : Duration) : Bool :=
  duration.nanoseconds == 0

/-- The sum, or the largest duration if the sum is too long. -/
instance : Add Duration :=
  ⟨fun first second ↦ ofNanoseconds (first.nanoseconds + second.nanoseconds)⟩

instance : LT Duration :=
  ⟨fun first second ↦ first.nanoseconds < second.nanoseconds⟩

instance : LE Duration :=
  ⟨fun first second ↦ first.nanoseconds ≤ second.nanoseconds⟩

instance (first second : Duration) : Decidable (first < second) :=
  inferInstanceAs (Decidable (first.nanoseconds < second.nanoseconds))

instance (first second : Duration) : Decidable (first ≤ second) :=
  inferInstanceAs (Decidable (first.nanoseconds ≤ second.nanoseconds))

theorem ext {first second : Duration} (h : first.nanoseconds = second.nanoseconds) :
    first = second := by
  cases first
  cases second
  simp_all

theorem lt_iff (first second : Duration) :
    first < second ↔ first.nanoseconds < second.nanoseconds :=
  Iff.rfl

theorem le_iff (first second : Duration) :
    first ≤ second ↔ first.nanoseconds ≤ second.nanoseconds :=
  Iff.rfl

/-- A sum of durations is the sum of their nanoseconds, cut off at the largest duration. -/
theorem nanoseconds_add (first second : Duration) :
    (first + second).nanoseconds =
      min (first.nanoseconds + second.nanoseconds) (durationLimit - 1) :=
  rfl

theorem le_add (first second : Duration) : first ≤ first + second := by
  have hlimit := first.lt_limit
  rw [le_iff, nanoseconds_add]
  omega

theorem seconds_lt (duration : Duration) : duration.seconds < UInt64.size :=
  (Nat.div_lt_iff_lt_mul (by decide)).2 duration.lt_limit

end Duration

end TokenMint
