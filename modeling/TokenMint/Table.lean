/-!
# Finite tables keyed by text

A `Table` holds at most one value per key and lists its entries in the order in which the keys were
first inserted. `get?_insert` is the law of insertion, and `mem_keys_insert` says which keys there
are afterwards. `sorted` lists the entries by key.
-/

set_option autoImplicit false
set_option relaxedAutoImplicit false

namespace TokenMint

/-- A finite map from text, in order of first insertion. -/
structure Table (α : Type) where
  /-- The entries, the oldest key first. -/
  entries : List (String × α)
  /-- No key occurs twice. -/
  nodup_keys : (entries.map Prod.fst).Nodup

namespace Table

variable {α : Type}

/-- The table without entries. -/
def empty : Table α :=
  ⟨[], by simp⟩

instance : Inhabited (Table α) := ⟨empty⟩

/-- The keys, the oldest first. -/
def keys (table : Table α) : List String :=
  table.entries.map Prod.fst

/-- The number of keys. -/
def size (table : Table α) : Nat :=
  table.entries.length

/-- The value of a key, if it has one. -/
def get? (table : Table α) (key : String) : Option α :=
  table.entries.lookup key

/-- The entries with the value of `key` replaced, or with `key` added at the end. -/
def insertEntry (key : String) (value : α) : List (String × α) → List (String × α)
  | [] => [(key, value)]
  | entry :: rest =>
    if entry.1 = key then (key, value) :: rest else entry :: insertEntry key value rest

/-- The keys after an insertion are the old keys, with the new one at the end if it is new. -/
theorem map_fst_insertEntry (key : String) (value : α) (entries : List (String × α)) :
    (insertEntry key value entries).map Prod.fst =
      if key ∈ entries.map Prod.fst then entries.map Prod.fst
      else entries.map Prod.fst ++ [key] := by
  induction entries with
  | nil => simp [insertEntry]
  | cons entry rest ih =>
    simp only [insertEntry]
    split
    next hkey => simp [hkey]
    next hkey =>
      rw [List.map_cons, ih]
      by_cases hmem : key ∈ rest.map Prod.fst
      · simp [hmem]
      · simp [hmem, Ne.symm hkey]

/-- The table in which `key` has the given value. -/
def insert (table : Table α) (key : String) (value : α) : Table α where
  entries := insertEntry key value table.entries
  nodup_keys := by
    rw [map_fst_insertEntry]
    split
    · exact table.nodup_keys
    next hkey =>
      refine List.nodup_append.2 ⟨table.nodup_keys, by simp, ?_⟩
      intro old hold new hnew
      obtain rfl : new = key := by simpa using hnew
      exact fun h ↦ hkey (h ▸ hold)

/-- The entries in increasing order of their keys. -/
def sorted (table : Table α) : List (String × α) :=
  table.entries.mergeSort fun first second ↦ decide (first.1 ≤ second.1)

/-! ### Insertion and look-up -/

theorem lookup_insertEntry (key : String) (value : α) (entries : List (String × α))
    (other : String) :
    (insertEntry key value entries).lookup other =
      if other = key then some value else entries.lookup other := by
  induction entries with
  | nil =>
    by_cases hother : other = key
    · simp [insertEntry, hother]
    · simp [insertEntry, List.lookup_cons, hother, beq_eq_false_iff_ne.2 hother]
  | cons entry rest ih =>
    obtain ⟨name, old⟩ := entry
    simp only [insertEntry]
    split
    next hkey =>
      obtain rfl : name = key := hkey
      by_cases hother : other = name
      · simp [hother]
      · simp [List.lookup_cons, hother, beq_eq_false_iff_ne.2 hother]
    next hkey =>
      by_cases hname : other = name
      · have hne : other ≠ key := fun h ↦ hkey (hname ▸ h)
        simp [hname, fun h : name = key ↦ hkey h]
      · simp [List.lookup_cons, beq_eq_false_iff_ne.2 hname, ih]

@[simp]
theorem get?_empty (key : String) : (empty : Table α).get? key = none := rfl

/-- A key has the value last inserted under it. -/
theorem get?_insert (table : Table α) (key : String) (value : α) (other : String) :
    (table.insert key value).get? other = if other = key then some value else table.get? other :=
  lookup_insertEntry key value table.entries other

@[simp]
theorem get?_insert_self (table : Table α) (key : String) (value : α) :
    (table.insert key value).get? key = some value := by
  simp [get?_insert]

theorem get?_insert_of_ne (table : Table α) {key other : String} (value : α)
    (hother : other ≠ key) : (table.insert key value).get? other = table.get? other := by
  simp [get?_insert, hother]

/-- The entries are the keys with their values. -/
theorem mem_entries_iff (table : Table α) (key : String) (value : α) :
    (key, value) ∈ table.entries ↔ table.get? key = some value := by
  obtain ⟨entries, hnodup⟩ := table
  simp only [get?]
  induction entries with
  | nil => simp
  | cons entry rest ih =>
    obtain ⟨name, first⟩ := entry
    rw [List.map_cons, List.nodup_cons] at hnodup
    by_cases hname : key = name
    · have hfresh : (key, value) ∉ rest := fun hmem ↦
        hnodup.1 (List.mem_map.2 ⟨(key, value), hmem, hname⟩)
      subst hname
      simp [hfresh, eq_comm]
    · simp [List.lookup_cons, hname, beq_eq_false_iff_ne.2 hname, ih hnodup.2]

theorem mem_keys_iff (table : Table α) (key : String) :
    key ∈ table.keys ↔ ∃ value, table.get? key = some value := by
  simp only [keys, List.mem_map, Prod.exists, mem_entries_iff]
  constructor
  · rintro ⟨_, value, hget, rfl⟩
    exact ⟨value, hget⟩
  · rintro ⟨value, hget⟩
    exact ⟨key, value, hget, rfl⟩

theorem mem_keys_insert (table : Table α) (key : String) (value : α) (other : String) :
    other ∈ (table.insert key value).keys ↔ other = key ∨ other ∈ table.keys := by
  simp only [keys, insert, map_fst_insertEntry]
  split
  next hkey =>
    constructor
    · exact .inr
    · rintro (rfl | hother)
      · exact hkey
      · exact hother
  next => simp [or_comm]

theorem insertEntry_insertEntry (key : String) (first second : α) (entries : List (String × α)) :
    insertEntry key second (insertEntry key first entries) = insertEntry key second entries := by
  induction entries with
  | nil => simp [insertEntry]
  | cons entry rest ih =>
    by_cases hkey : entry.1 = key
    · simp [insertEntry, hkey]
    · simp [insertEntry, hkey, ih]

/-- What is inserted under a key replaces what was inserted before. -/
theorem insert_insert (table : Table α) (key : String) (first second : α) :
    (table.insert key first).insert key second = table.insert key second := by
  have hentries := insertEntry_insertEntry key first second table.entries
  simp only [insert, hentries]

end Table

end TokenMint
