import TokenMint.Cache.Slot
import TokenMint.Table

/-!
# A cache with one generation at a time

A `Cache` keeps the tokens of every key for a time. A caller consults it first (`Cache.consult`).
Either it is served at once, or it is told to wait for the generation that runs for its key, or it
has to generate the tokens, in which case no other caller of the key generates until it is done.
It is done when it delivers its result (`Cache.deliver`) or breaks down (`Cache.abandon`). A result
is kept; after a failure the caller puts back what its `Guard` remembers from before. Callers that
wait get the verdict on the very generation they wait for (`Cache.verdict?`). Tokens with no
lifetime are not kept at all: their callers all generate, and the slots play no part.
-/

set_option autoImplicit false
set_option relaxedAutoImplicit false

namespace TokenMint

/-- What callers do while another caller generates the tokens of their key. -/
inductive Policy where
  /-- They wait for the new tokens. -/
  | blockUntilPublished
  /-- They take the expired tokens, if there are any. -/
  | serveStale
  deriving DecidableEq

/-- The name of a policy. -/
def Policy.name : Policy → String
  | blockUntilPublished => "BlockUntilPublished"
  | serveStale => "ServeStale"

/-- What those get who waited for a generation. -/
abbrev Verdict := Except TokenError Minted

/-- Tokens by key, and the generations that have been started. -/
structure Cache where
  policy : Policy
  slots : Table Slot
  /-- The verdict on every generation, in the order in which they started, or nothing for one that
  is still running. -/
  verdicts : List (Option Verdict)

/-- What a caller asks for. -/
structure Lookup where
  key : String
  now : Duration
  /-- How long newly generated tokens are kept. -/
  ttl : Duration
  deriving DecidableEq

/-- What a caller holds while it generates tokens that are to be kept. -/
structure Guard where
  generation : Nat
  /-- What was kept before, which is put back if the generation fails. -/
  previous : Option Kept
  deriving DecidableEq

/-- What a caller is told. -/
inductive Instruction where
  /-- Here are tokens. -/
  | served (served : Served)
  /-- Wait for the generation of this number. -/
  | wait (generation : Nat)
  /-- Generate the tokens, and with the guard if they are to be kept. -/
  | generate (guard : Option Guard)
  deriving DecidableEq

namespace Cache

/-- The cache that has not been used. -/
def empty (policy : Policy) : Cache :=
  ⟨policy, .empty, []⟩

/-- The slot of a key. -/
def slot (cache : Cache) (key : String) : Slot :=
  (cache.slots.get? key).getD .empty

/-- The cache with the slot of a key replaced. -/
def setSlot (cache : Cache) (key : String) (slot : Slot) : Cache :=
  { cache with slots := cache.slots.insert key slot }

/-- The verdict on a generation, once it is done. -/
def verdict? (cache : Cache) (generation : Nat) : Option Verdict :=
  (cache.verdicts[generation]?).join

/-- Starts a generation for a key. -/
def start (cache : Cache) (key : String) (previous : Option Kept) : Instruction × Cache :=
  let generation := cache.verdicts.length
  (.generate (some ⟨generation, previous⟩),
    { (cache.setSlot key (.regenerating previous generation)) with
      verdicts := cache.verdicts ++ [none] })

/-- What a caller is told while a generation runs for its key. -/
def instructionWhileRunning (policy : Policy) (previous : Option Kept) (generation : Nat) :
    Instruction :=
  match policy, previous with
  | .serveStale, some kept => .served ⟨kept.minted, .stale⟩
  | _, _ => .wait generation

/-- What a caller is told, and the cache after that. -/
def consult (cache : Cache) (lookup : Lookup) : Instruction × Cache :=
  if lookup.ttl.isZero then (.generate none, cache)
  else
    match cache.slot lookup.key with
    | .empty => cache.start lookup.key none
    | .ready kept =>
      if kept.isFresh lookup.now then (.served ⟨kept.minted, .hit⟩, cache)
      else cache.start lookup.key (some kept)
    | .regenerating previous generation =>
      (instructionWhileRunning cache.policy previous generation, cache)

/-- The cache with a slot for the key of a finished generation, and its verdict. -/
def conclude (cache : Cache) (key : String) (generation : Nat) (slot : Slot) (verdict : Verdict) :
    Cache :=
  { (cache.setSlot key slot) with verdicts := cache.verdicts.set generation (some verdict) }

/-- The cache after a failed generation: what was kept before is put back, and those who wait get
the reason of the failure. -/
def release (cache : Cache) (key : String) (guard : Guard) (reason : String) : Cache :=
  cache.conclude key guard.generation (.ofKept guard.previous)
    (.error (.regenerationFailed reason))

/-- What a caller gets that has generated tokens or failed to, and the cache after that. -/
def deliver (cache : Cache) (lookup : Lookup) (guard : Option Guard)
    (result : Except TokenError Minted) : Except TokenError Served × Cache :=
  match guard, result with
  | none, .ok minted => (.ok ⟨minted, .bypassed⟩, cache)
  | none, .error error => (.error error, cache)
  | some guard, .ok minted =>
    (.ok ⟨minted, .generated⟩,
      cache.conclude lookup.key guard.generation (.ready ⟨minted, lookup.now + lookup.ttl⟩)
        (.ok minted))
  | some guard, .error error => (.error error, cache.release lookup.key guard error.message)

/-- The cache after a caller broke down while it was generating. -/
def abandon (cache : Cache) (lookup : Lookup) (guard : Option Guard) : Cache :=
  match guard with
  | none => cache
  | some guard => cache.release lookup.key guard "token generator panicked"

/-- What a caller gets that has waited for a generation, once it is done. -/
def await? (cache : Cache) (generation : Nat) : Option (Except TokenError Served) :=
  (cache.verdict? generation).map fun verdict ↦ verdict.map fun minted ↦ ⟨minted, .awaited⟩

/-! ### What the operations do to slots and verdicts -/

@[simp]
theorem slot_empty (policy : Policy) (key : String) : (empty policy).slot key = .empty := rfl

theorem slot_setSlot (cache : Cache) (key : String) (slot : Slot) (other : String) :
    (cache.setSlot key slot).slot other = if other = key then slot else cache.slot other := by
  by_cases hother : other = key <;> simp [Cache.slot, setSlot, Table.get?_insert, hother]

theorem slot_start (cache : Cache) (key : String) (previous : Option Kept) (other : String) :
    (cache.start key previous).2.slot other =
      if other = key then .regenerating previous cache.verdicts.length else cache.slot other :=
  slot_setSlot cache key _ other

theorem slot_conclude (cache : Cache) (key : String) (generation : Nat) (slot : Slot)
    (verdict : Verdict) (other : String) :
    (cache.conclude key generation slot verdict).slot other =
      if other = key then slot else cache.slot other :=
  slot_setSlot cache key slot other

/-- A slot that is not empty is in the table. -/
theorem mem_keys_of_slot_ne (cache : Cache) {key : String} (hslot : cache.slot key ≠ .empty) :
    key ∈ cache.slots.keys := by
  cases hget : cache.slots.get? key with
  | none => exact absurd (by rw [slot, hget, Option.getD_none]) hslot
  | some slot => exact (cache.slots.mem_keys_iff key).2 ⟨slot, hget⟩

theorem mem_keys_start (cache : Cache) (key : String) (previous : Option Kept) (other : String) :
    other ∈ (cache.start key previous).2.slots.keys ↔ other = key ∨ other ∈ cache.slots.keys :=
  Table.mem_keys_insert ..

theorem mem_keys_conclude (cache : Cache) (key : String) (generation : Nat) (slot : Slot)
    (verdict : Verdict) (other : String) :
    other ∈ (cache.conclude key generation slot verdict).slots.keys ↔
      other = key ∨ other ∈ cache.slots.keys :=
  Table.mem_keys_insert ..

/-- A caller is served at once, has to wait, or starts a generation for its key; the cache changes
in the last case alone. -/
theorem consult_cases (cache : Cache) (lookup : Lookup) :
    (lookup.ttl.isZero = true ∧ cache.consult lookup = (.generate none, cache)) ∨
    (∃ kept, cache.slot lookup.key = .ready kept ∧ kept.isFresh lookup.now = true ∧
      cache.consult lookup = (.served ⟨kept.minted, .hit⟩, cache)) ∨
    (∃ kept generation, cache.slot lookup.key = .regenerating (some kept) generation ∧
      cache.policy = .serveStale ∧
        cache.consult lookup = (.served ⟨kept.minted, .stale⟩, cache)) ∨
    (∃ previous generation, cache.slot lookup.key = .regenerating previous generation ∧
      cache.consult lookup = (.wait generation, cache)) ∨
    (∃ previous, cache.slot lookup.key = .ofKept previous ∧
      (∀ kept, previous = some kept → kept.isFresh lookup.now = false) ∧
        lookup.ttl.isZero = false ∧
          cache.consult lookup = cache.start lookup.key previous) := by
  cases hzero : lookup.ttl.isZero with
  | true => exact .inl ⟨rfl, by simp [consult, hzero]⟩
  | false =>
    refine .inr ?_
    cases hslot : cache.slot lookup.key with
    | empty =>
      refine .inr (.inr (.inr ⟨none, rfl, by simp, rfl, ?_⟩))
      simp [consult, hzero, hslot]
    | ready kept =>
      cases hfresh : kept.isFresh lookup.now with
      | true => exact .inl ⟨kept, rfl, hfresh, by simp [consult, hzero, hslot, hfresh]⟩
      | false =>
        refine .inr (.inr (.inr ⟨some kept, rfl, ?_, rfl, ?_⟩))
        · rintro other ⟨⟩
          exact hfresh
        · simp [consult, hzero, hslot, hfresh]
    | regenerating previous generation =>
      cases hpolicy : cache.policy with
      | blockUntilPublished =>
        refine .inr (.inr (.inl ⟨previous, generation, rfl, ?_⟩))
        simp [consult, hzero, hslot, hpolicy, instructionWhileRunning]
      | serveStale =>
        cases previous with
        | none =>
          refine .inr (.inr (.inl ⟨none, generation, rfl, ?_⟩))
          simp [consult, hzero, hslot, instructionWhileRunning]
        | some kept =>
          refine .inr (.inl ⟨kept, generation, rfl, rfl, ?_⟩)
          simp [consult, hzero, hslot, hpolicy, instructionWhileRunning]

/-! ### What a caller can tell from its instruction -/

/-- Tokens that are served have not expired, or another generation runs that is to replace them. -/
theorem slot_of_served {cache : Cache} {lookup : Lookup} {served : Served}
    (hserved : (cache.consult lookup).1 = .served served) :
    (∃ kept, cache.slot lookup.key = .ready kept ∧ kept.isFresh lookup.now = true ∧
      served = ⟨kept.minted, .hit⟩) ∨
    (∃ kept generation, cache.slot lookup.key = .regenerating (some kept) generation ∧
      cache.policy = .serveStale ∧ served = ⟨kept.minted, .stale⟩) := by
  rcases cache.consult_cases lookup with ⟨-, h⟩ | ⟨kept, hslot, hfresh, h⟩ |
    ⟨kept, generation, hslot, hpolicy, h⟩ | ⟨previous, generation, -, h⟩ | ⟨previous, -, -, -, h⟩
  · simp [h] at hserved
  · rw [h] at hserved
    exact .inl ⟨kept, hslot, hfresh, (Instruction.served.inj hserved).symm⟩
  · rw [h] at hserved
    exact .inr ⟨kept, generation, hslot, hpolicy, (Instruction.served.inj hserved).symm⟩
  · simp [h] at hserved
  · simp [h, start] at hserved

theorem slot_of_wait {cache : Cache} {lookup : Lookup} {generation : Nat}
    (hwait : (cache.consult lookup).1 = .wait generation) :
    ∃ previous, cache.slot lookup.key = .regenerating previous generation := by
  rcases cache.consult_cases lookup with ⟨-, h⟩ | ⟨kept, -, -, h⟩ | ⟨kept, number, -, -, h⟩ |
    ⟨previous, number, hslot, h⟩ | ⟨previous, -, -, -, h⟩
  · simp [h] at hwait
  · simp [h] at hwait
  · simp [h] at hwait
  · rw [h] at hwait
    obtain rfl := Instruction.wait.inj hwait
    exact ⟨previous, hslot⟩
  · simp [h, start] at hwait

/-- A caller is given a guard if no generation runs for its key, and the guard remembers what the
slot keeps. -/
theorem slot_of_generate {cache : Cache} {lookup : Lookup} {guard : Guard}
    (hgenerate : (cache.consult lookup).1 = .generate (some guard)) :
    cache.slot lookup.key = .ofKept guard.previous := by
  rcases cache.consult_cases lookup with ⟨-, h⟩ | ⟨kept, -, -, h⟩ | ⟨kept, number, -, -, h⟩ |
    ⟨previous, number, -, h⟩ | ⟨previous, hslot, -, -, h⟩
  · simp [h] at hgenerate
  · simp [h] at hgenerate
  · simp [h] at hgenerate
  · simp [h] at hgenerate
  · rw [h] at hgenerate
    obtain rfl := Option.some.inj (Instruction.generate.inj hgenerate)
    exact hslot

/-! ### Statistics -/

/-- The number of keys by the condition of their slots. -/
structure Stats where
  total : Nat
  valid : Nat
  stale : Nat
  regenerating : Nat
  empty : Nat
  backend : String
  deriving DecidableEq

/-- The number of slots in a condition. -/
def countIn (cache : Cache) (now : Duration) (condition : Slot.Condition) : Nat :=
  cache.slots.entries.countP fun entry ↦ decide (entry.2.condition now = condition)

/-- The statistics at an instant. -/
def stats (cache : Cache) (now : Duration) : Stats where
  total := cache.slots.size
  valid := cache.countIn now .valid
  stale := cache.countIn now .stale
  regenerating := cache.countIn now .regenerating
  empty := cache.countIn now .empty
  backend := "In-memory token cache (" ++ cache.policy.name ++ ")"

end Cache

end TokenMint
