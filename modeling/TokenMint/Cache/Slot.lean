import TokenMint.Minted

/-!
# What is kept under a key

Every key has a `Slot`. It is empty until tokens have been generated for the key; then it holds them
until they expire. While tokens are being generated anew, the slot names the running generation and
keeps the tokens from before, for those who may be served expired tokens meanwhile.
-/

set_option autoImplicit false
set_option relaxedAutoImplicit false

namespace TokenMint

/-- How a caller came by its tokens. -/
inductive Outcome where
  /-- They were kept and had not expired. -/
  | hit
  /-- The caller generated them, and they were kept. -/
  | generated
  /-- Another caller was generating them. -/
  | awaited
  /-- They had expired, and another caller was generating new ones. -/
  | stale
  /-- The caller generated them for itself alone. -/
  | bypassed
  deriving DecidableEq

namespace Outcome

/-- The name of an outcome. -/
def name : Outcome → String
  | hit => "hit"
  | generated => "generated"
  | awaited => "awaited"
  | stale => "stale"
  | bypassed => "bypassed"

/-- Whether the caller generated the tokens itself. -/
def isFresh : Outcome → Bool
  | generated | bypassed => true
  | _ => false

end Outcome

/-- Tokens and how the caller came by them. -/
structure Served where
  minted : Minted
  outcome : Outcome
  deriving DecidableEq

/-- Tokens that are kept until an instant. -/
structure Kept where
  minted : Minted
  expiresAt : Duration
  deriving DecidableEq

/-- Whether kept tokens have not expired yet. -/
def Kept.isFresh (kept : Kept) (now : Duration) : Bool :=
  decide (now < kept.expiresAt)

theorem Kept.isFresh_iff (kept : Kept) (now : Duration) :
    kept.isFresh now = true ↔ now < kept.expiresAt :=
  decide_eq_true_iff

theorem Kept.not_isFresh_iff (kept : Kept) (now : Duration) :
    kept.isFresh now = false ↔ kept.expiresAt ≤ now := by
  rw [isFresh, decide_eq_false_iff_not, Duration.lt_iff, Duration.le_iff]
  omega

/-- What is kept under a key. -/
inductive Slot where
  | empty
  | ready (kept : Kept)
  /-- A generation runs; beside its number stands what was kept before. -/
  | regenerating (previous : Option Kept) (generation : Nat)
  deriving DecidableEq

namespace Slot

/-- The slot that keeps the given tokens, if there are any. -/
def ofKept : Option Kept → Slot
  | none => empty
  | some kept => ready kept

/-- What a slot keeps, or kept before the generation that runs. -/
def kept? : Slot → Option Kept
  | empty => none
  | ready kept => some kept
  | regenerating previous _ => previous

@[simp]
theorem kept?_ofKept (kept : Option Kept) : (ofKept kept).kept? = kept := by
  cases kept <;> rfl

theorem eq_ofKept {slot : Slot}
    (hidle : ∀ previous generation, slot ≠ regenerating previous generation) :
    slot = ofKept slot.kept? := by
  cases slot with
  | empty => rfl
  | ready => rfl
  | regenerating previous generation => exact absurd rfl (hidle previous generation)

theorem ofKept_ne_regenerating (kept previous : Option Kept) (generation : Nat) :
    ofKept kept ≠ regenerating previous generation := by
  cases kept <;> simp [ofKept]

/-- The condition of a slot at an instant. -/
inductive Condition where
  | valid
  | stale
  | regenerating
  | empty
  deriving DecidableEq

/-- The condition that a slot is in. -/
def condition (now : Duration) : Slot → Condition
  | empty => .empty
  | ready kept => if kept.isFresh now then .valid else .stale
  | regenerating _ _ => .regenerating

end Slot

end TokenMint
