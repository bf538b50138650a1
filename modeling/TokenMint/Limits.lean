import TokenMint.Duration
import TokenMint.Fault

/-!
# Bounds of a configuration

The bounds that numbers and lifetimes of a configuration must keep, and the checks that refuse a
value outside of them. `checkNumber_eq_ok_iff` and `checkLifetime_eq_ok_iff` say that a check passes
exactly within its bounds; a value that is not given passes every check (`checkGiven`).
-/

set_option autoImplicit false
set_option relaxedAutoImplicit false

namespace TokenMint

/-- An inclusive range of numbers. -/
structure Bounds where
  /-- The least number. -/
  low : Nat
  /-- The greatest number. -/
  high : Nat

namespace Bounds

/-- Whether a number lies within the bounds. -/
def Holds (bounds : Bounds) (n : Nat) : Prop :=
  bounds.low ≤ n ∧ n ≤ bounds.high

instance (bounds : Bounds) (n : Nat) : Decidable (bounds.Holds n) :=
  inferInstanceAs (Decidable (_ ∧ _))

/-- The number of random bytes or custom characters of a token. -/
def length : Bounds := ⟨1, 1024⟩

/-- The number of tokens that are minted together. -/
def count : Bounds := ⟨1, 50⟩

/-- The number of custom characters in a group, zero for no groups. -/
def grouping : Bounds := ⟨0, 128⟩

end Bounds

/-- The length of tokens without a configured one; it carries 128 bits. -/
abbrev standardLength : Nat := 16

/-- The most named tokens of a layer or of a request. -/
abbrev maxNamedTokens : Nat := 50

/-- The longest time for which a token may be kept: one day, in seconds. -/
abbrev maxLifetime : Nat := 86400

/-- The longest time after which a signed token may expire: 365 days, in seconds. -/
abbrev maxExpiry : Nat := 31536000

/-- Refuses a number outside the bounds. -/
def checkNumber (subject : String) (bounds : Bounds) (n : Nat) : Except ConfigFault Unit :=
  if bounds.Holds n then .ok () else .error (.numberOutOfRange subject bounds.low bounds.high)

/-- Refuses a span of more than so many seconds. -/
def checkLifetime (subject : String) (high : Nat) (span : Duration) : Except ConfigFault Unit :=
  if Duration.ofSeconds high < span then .error (.secondsOutOfRange subject high) else .ok ()

/-- A check of a value that may be missing. -/
def checkGiven {α : Type} (check : α → Except ConfigFault Unit) : Option α → Except ConfigFault Unit
  | none => .ok ()
  | some value => check value

theorem checkNumber_eq_ok_iff (subject : String) (bounds : Bounds) (n : Nat) :
    checkNumber subject bounds n = .ok () ↔ bounds.Holds n := by
  by_cases h : bounds.Holds n <;> simp [checkNumber, h]

theorem checkLifetime_eq_ok_iff (subject : String) (high : Nat) (span : Duration) :
    checkLifetime subject high span = .ok () ↔ ¬Duration.ofSeconds high < span := by
  by_cases h : Duration.ofSeconds high < span <;> simp [checkLifetime, h]

theorem checkGiven_eq_ok_iff {α : Type} (check : α → Except ConfigFault Unit) (value : Option α) :
    checkGiven check value = .ok () ↔ ∀ given ∈ value, check given = .ok () := by
  cases value <;> simp [checkGiven]

end TokenMint
