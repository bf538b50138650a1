import TokenMint.Cache

/-!
# Caches with their signatures masked

Masking leaves of every signature that it is there, and nothing of its text. A cache hands tokens
from one caller to another and never looks into them, so all of its operations go through masking:
a caller of the masked cache is told what it would be told otherwise, but for the texts of
signatures (`Cache.consult_masked`, `Cache.deliver_masked`, `Cache.abandon_masked`,
`Cache.await?_masked`), and the statistics are the same (`Cache.stats_masked`).
-/

set_option autoImplicit false
set_option relaxedAutoImplicit false

namespace TokenMint

/-! ### Tables -/

namespace Table

variable {α β : Type}

theorem ext {first second : Table α} (hentries : first.entries = second.entries) :
    first = second := by
  cases first
  cases second
  obtain rfl := hentries
  rfl

/-- The table with every value changed. -/
def map (change : α → β) (table : Table α) : Table β where
  entries := table.entries.map fun entry ↦ (entry.1, change entry.2)
  nodup_keys := by
    rw [List.map_map]
    exact table.nodup_keys

theorem get?_map (change : α → β) (table : Table α) (key : String) :
    (table.map change).get? key = (table.get? key).map change := by
  obtain ⟨entries, hnodup⟩ := table
  simp only [get?, map]
  clear hnodup
  induction entries with
  | nil => rfl
  | cons entry rest ih =>
    obtain ⟨name, value⟩ := entry
    simp only [List.map_cons, List.lookup_cons]
    cases key == name with
    | true => rfl
    | false => exact ih

theorem map_insert (change : α → β) (table : Table α) (key : String) (value : α) :
    (table.insert key value).map change = (table.map change).insert key (change value) := by
  refine ext ?_
  simp only [map, insert]
  induction table.entries with
  | nil => rfl
  | cons entry rest ih =>
    simp only [insertEntry, List.map_cons]
    split
    · rfl
    · exact congrArg _ ih

theorem size_map (change : α → β) (table : Table α) : (table.map change).size = table.size :=
  List.length_map _

end Table

/-! ### Tokens and slots -/

/-- The tokens with the texts of their signatures masked. -/
def Minted.masked (minted : Minted) : Minted :=
  { minted with signatures := minted.signatures.map fun _ ↦ "" }

/-- The served tokens with their signatures masked. -/
def Served.masked (served : Served) : Served :=
  { served with minted := served.minted.masked }

/-- The kept tokens with their signatures masked. -/
def Kept.masked (kept : Kept) : Kept :=
  { kept with minted := kept.minted.masked }

namespace Slot

/-- The slot with the signatures of its tokens masked. -/
def masked : Slot → Slot
  | empty => empty
  | ready kept => ready kept.masked
  | regenerating previous generation => regenerating (previous.map Kept.masked) generation

theorem masked_ofKept (kept : Option Kept) :
    (ofKept kept).masked = ofKept (kept.map Kept.masked) := by
  cases kept <;> rfl

theorem condition_masked (slot : Slot) (now : Duration) :
    slot.masked.condition now = slot.condition now := by
  cases slot <;> rfl

end Slot

/-- The guard with the signatures of the tokens from before masked. -/
def Guard.masked (guard : Guard) : Guard :=
  { guard with previous := guard.previous.map Kept.masked }

/-- The instruction with the signatures of what is served or remembered masked. -/
def Instruction.masked : Instruction → Instruction
  | served tokens => served tokens.masked
  | wait generation => wait generation
  | generate guard => generate (guard.map Guard.masked)

namespace Cache

/-- The cache with the signatures of all that it holds masked. -/
def masked (cache : Cache) : Cache where
  policy := cache.policy
  slots := cache.slots.map Slot.masked
  verdicts := cache.verdicts.map (Option.map (Except.map Minted.masked))

variable (cache : Cache)

/-! ### Operations -/

theorem slot_masked (key : String) : cache.masked.slot key = (cache.slot key).masked := by
  simp only [slot, masked, Table.get?_map]
  cases cache.slots.get? key <;> rfl

theorem setSlot_masked (key : String) (slot : Slot) :
    cache.masked.setSlot key slot.masked = (cache.setSlot key slot).masked := by
  simp only [setSlot, masked, Table.map_insert]

theorem start_masked (key : String) (previous : Option Kept) :
    cache.masked.start key (previous.map Kept.masked) =
      Prod.map Instruction.masked masked (cache.start key previous) := by
  have hlength : cache.masked.verdicts.length = cache.verdicts.length := List.length_map _
  have hslot := cache.setSlot_masked key (.regenerating previous cache.verdicts.length)
  simp only [Slot.masked] at hslot
  simp only [start, hlength, hslot, Prod.map_apply]
  simp [masked, setSlot, Instruction.masked, Guard.masked]

/-- Callers of the masked cache are told the same, but for the texts of signatures. -/
theorem consult_masked (lookup : Lookup) :
    cache.masked.consult lookup =
      Prod.map Instruction.masked masked (cache.consult lookup) := by
  unfold consult
  rw [slot_masked]
  split
  · rfl
  · cases cache.slot lookup.key with
    | empty => exact cache.start_masked lookup.key none
    | ready kept =>
      have hfresh : kept.masked.isFresh lookup.now = kept.isFresh lookup.now := rfl
      simp only [Slot.masked, hfresh]
      split
      · rfl
      · exact cache.start_masked lookup.key (some kept)
    | regenerating previous generation =>
      cases hpolicy : cache.policy <;> cases previous <;>
        simp [Slot.masked, masked, hpolicy, instructionWhileRunning, Instruction.masked,
          Served.masked, Kept.masked]

theorem conclude_masked (key : String) (generation : Nat) (slot : Slot) (verdict : Verdict) :
    cache.masked.conclude key generation slot.masked (verdict.map Minted.masked) =
      (cache.conclude key generation slot verdict).masked := by
  unfold conclude
  rw [setSlot_masked]
  simp only [masked, setSlot, List.map_set, Option.map_some]

theorem release_masked (key : String) (guard : Guard) (reason : String) :
    cache.masked.release key guard.masked reason = (cache.release key guard reason).masked := by
  have hconclude := cache.conclude_masked key guard.generation (.ofKept guard.previous)
    (.error (.regenerationFailed reason))
  rw [Slot.masked_ofKept] at hconclude
  exact hconclude

theorem deliver_masked (lookup : Lookup) (guard : Option Guard)
    (result : Except TokenError Minted) :
    cache.masked.deliver lookup (guard.map Guard.masked) (result.map Minted.masked) =
      Prod.map (Except.map Served.masked) masked (cache.deliver lookup guard result) := by
  cases guard with
  | none => cases result <;> rfl
  | some guard =>
    cases result with
    | ok minted =>
      exact congrArg (Prod.mk _) (cache.conclude_masked lookup.key guard.generation
        (.ready ⟨minted, lookup.now + lookup.ttl⟩) (.ok minted))
    | error error =>
      exact congrArg (Prod.mk _) (cache.release_masked lookup.key guard error.message)

theorem abandon_masked (lookup : Lookup) (guard : Option Guard) :
    cache.masked.abandon lookup (guard.map Guard.masked) = (cache.abandon lookup guard).masked := by
  cases guard with
  | none => rfl
  | some guard => exact cache.release_masked lookup.key guard _

theorem await?_masked (generation : Nat) :
    cache.masked.await? generation = (cache.await? generation).map (Except.map Served.masked) := by
  simp only [await?, verdict?, masked, List.getElem?_map]
  cases cache.verdicts[generation]? with
  | none => rfl
  | some verdict =>
    cases verdict with
    | none => rfl
    | some verdict => cases verdict <;> rfl

/-! ### Statistics -/

theorem stats_masked (now : Duration) : cache.masked.stats now = cache.stats now := by
  have hcount (condition : Slot.Condition) :
      cache.masked.countIn now condition = cache.countIn now condition := by
    simp only [countIn, masked, Table.map, List.countP_map, Function.comp_def,
      Slot.condition_masked]
  have hsize : cache.masked.slots.size = cache.slots.size := Table.size_map _ _
  simp only [stats, hcount, hsize]
  rfl

end Cache

end TokenMint
