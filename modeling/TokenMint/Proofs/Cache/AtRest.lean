import TokenMint.Cache

/-!
# A cache at rest

While no generation runs, a cache is a table of the tokens that are kept, each with the instant at
which they expire (`Cache.Keeps`). A caller that nothing overlaps meets no more than such a table.
It finds tokens there that have not expired (`Lookup.find?`), or it generates them, and they are put
into the table if they have a lifetime (`Lookup.keep`). `Cache.consult_of_find?_eq_some` says that
the cache serves what is found, and `Cache.consult_of_find?_eq_none` that it lets the caller
generate otherwise, after which it keeps what the table keeps, whatever the result.
-/

set_option autoImplicit false
set_option relaxedAutoImplicit false

namespace TokenMint

/-! ### Tables of kept tokens -/

namespace Lookup

/-- The tokens of a table that a caller can be served with. -/
def find? (lookup : Lookup) (table : Table Kept) : Option Kept :=
  if lookup.ttl.isZero then none
  else (table.get? lookup.key).filter fun kept ↦ kept.isFresh lookup.now

/-- The table after a caller generated tokens or failed to. -/
def keep (lookup : Lookup) (result : Except TokenError Minted) (table : Table Kept) :
    Table Kept :=
  match result with
  | .error _ => table
  | .ok minted =>
    if lookup.ttl.isZero then table
    else table.insert lookup.key ⟨minted, lookup.now + lookup.ttl⟩

/-- How a caller came by tokens that it generated. -/
def outcome (lookup : Lookup) : Outcome :=
  if lookup.ttl.isZero then .bypassed else .generated

end Lookup

/-! ### The cache as a table -/

namespace Cache

/-- No generation runs, and the slots keep what the table holds. -/
def Keeps (cache : Cache) (table : Table Kept) : Prop :=
  ∀ key, cache.slot key = .ofKept (table.get? key)

variable {cache : Cache} {table : Table Kept} {lookup : Lookup}

theorem keeps_empty (policy : Policy) : (empty policy).Keeps .empty :=
  fun _ ↦ rfl

theorem consult_of_find?_eq_some (hkeeps : cache.Keeps table) {kept : Kept}
    (hfind : lookup.find? table = some kept) :
    cache.consult lookup = (.served ⟨kept.minted, .hit⟩, cache) := by
  unfold Lookup.find? at hfind
  cases hzero : lookup.ttl.isZero with
  | true => simp [hzero] at hfind
  | false =>
    rw [hzero, if_neg Bool.false_ne_true, Option.filter_eq_some_iff] at hfind
    obtain ⟨hget, hfresh⟩ := hfind
    have hslot : cache.slot lookup.key = .ready kept := by
      rw [hkeeps lookup.key, hget, Slot.ofKept]
    simp [consult, hzero, hslot, hfresh]

/-- A caller that finds nothing starts a generation for its key. -/
theorem consult_eq_start (hkeeps : cache.Keeps table) (hzero : lookup.ttl.isZero = false)
    (hfind : lookup.find? table = none) :
    cache.consult lookup = cache.start lookup.key (table.get? lookup.key) := by
  unfold Lookup.find? at hfind
  rw [hzero, if_neg Bool.false_ne_true] at hfind
  have hslot := hkeeps lookup.key
  cases hget : table.get? lookup.key with
  | none =>
    rw [hget, Slot.ofKept] at hslot
    simp [consult, hzero, hslot]
  | some kept =>
    rw [hget, Slot.ofKept] at hslot
    have hexpired : kept.isFresh lookup.now = false := by simpa [hget] using hfind
    simp [consult, hzero, hslot, hexpired]

/-- After a generation that only its own caller takes part in, the cache is at rest again. -/
theorem keeps_deliver_start (hkeeps : cache.Keeps table) (hzero : lookup.ttl.isZero = false)
    (result : Except TokenError Minted) :
    (((cache.start lookup.key (table.get? lookup.key)).2.deliver lookup
      (some ⟨cache.verdicts.length, table.get? lookup.key⟩) result).2).Keeps
        (lookup.keep result table) := by
  intro key
  by_cases hkey : key = lookup.key
  · subst hkey
    cases result with
    | error error =>
      rw [deliver, release, slot_conclude, if_pos rfl]
      rfl
    | ok minted =>
      rw [deliver, slot_conclude, if_pos rfl, Lookup.keep, hzero, if_neg Bool.false_ne_true,
        Table.get?_insert_self]
      rfl
  · cases result with
    | error error =>
      rw [deliver, release, slot_conclude, if_neg hkey, slot_start, if_neg hkey, hkeeps key]
      rfl
    | ok minted =>
      rw [deliver, slot_conclude, if_neg hkey, slot_start, if_neg hkey, hkeeps key, Lookup.keep,
        hzero, if_neg Bool.false_ne_true, Table.get?_insert_of_ne table _ hkey]

theorem consult_of_find?_eq_none (hkeeps : cache.Keeps table)
    (hfind : lookup.find? table = none) :
    ∃ guard started, cache.consult lookup = (.generate guard, started) ∧
      ∀ result, ∃ after,
        started.deliver lookup guard result =
          (result.map fun minted ↦ ⟨minted, lookup.outcome⟩, after) ∧
        after.Keeps (lookup.keep result table) := by
  cases hzero : lookup.ttl.isZero with
  | true =>
    refine ⟨none, cache, by simp [consult, hzero], fun result ↦ ⟨cache, ?_, ?_⟩⟩
    · cases result <;> simp [deliver, Except.map, Lookup.outcome, hzero]
    · cases result <;> simpa [Lookup.keep, hzero] using hkeeps
  | false =>
    refine ⟨some ⟨cache.verdicts.length, table.get? lookup.key⟩, _,
      consult_eq_start hkeeps hzero hfind,
      fun result ↦ ⟨_, Prod.ext ?_ rfl, keeps_deliver_start hkeeps hzero result⟩⟩
    cases result <;> simp [deliver, Except.map, Lookup.outcome, hzero]

end Cache

end TokenMint
