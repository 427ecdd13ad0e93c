/-!
# Positions by key

Records that are found by a key stand in a list, in the order in which they were added. An index
says at which position of the list the record of a key stands.
-/

namespace EntitySurface

/-- Positions of records by their keys. -/
structure KeyIndex (Key : Type) where
  entries : List (Key × Nat) := []
  deriving DecidableEq

namespace KeyIndex

variable {Key : Type} [DecidableEq Key]

/-- The position that was entered for a key. -/
def position? (index : KeyIndex Key) (key : Key) : Option Nat :=
  index.entries.lookup key

/-- A position was entered for the key. -/
def contains (index : KeyIndex Key) (key : Key) : Bool :=
  (index.position? key).isSome

/-- Enter the position of a key; what was entered for the key before no longer counts. -/
def enter (index : KeyIndex Key) (key : Key) (position : Nat) : KeyIndex Key :=
  { entries := (key, position) :: index.entries }

@[simp]
theorem position?_empty (key : Key) : ({} : KeyIndex Key).position? key = none :=
  rfl

/-- Entering a position changes what is found for that key and for no other. -/
theorem position?_enter (index : KeyIndex Key) (key other : Key) (position : Nat) :
    (index.enter key position).position? other =
      if other = key then some position else index.position? other := by
  by_cases same : other = key
  · simp [position?, enter, same]
  · have apart : (other == key) = false := by simpa using same
    simp [position?, enter, List.lookup_cons, same, apart]

/-! ## Indexes of lists -/

variable {index : KeyIndex Key} {keys : List Key}

/-- The index leads from a key to the place where it stands in a list, and from nothing else. -/
def Leads (index : KeyIndex Key) (keys : List Key) : Prop :=
  ∀ key position, index.position? key = some position ↔ keys[position]? = some key

theorem leads_empty : ({} : KeyIndex Key).Leads [] := by
  simp [Leads]

/-- Two places of one key would both be the position of the key. -/
theorem Leads.nodup (leads : index.Leads keys) : keys.Nodup := by
  rw [List.Nodup, List.pairwise_iff_getElem]
  intro first second firstInRange secondInRange before same
  have atFirst := (leads _ first).mpr (List.getElem?_eq_getElem firstInRange)
  rw [same, (leads _ second).mpr (List.getElem?_eq_getElem secondInRange)] at atFirst
  exact Nat.ne_of_gt before (Option.some.inj atFirst)

theorem Leads.contains_iff (leads : index.Leads keys) {key : Key} :
    index.contains key = true ↔ key ∈ keys := by
  simp only [contains, Option.isSome_iff_exists, leads key, List.mem_iff_getElem?]

/-- The record at the position of a key is the one that has the key. -/
theorem Leads.bind_getElem?_eq_some_iff {α : Type} {records : List α} {read : α → Key}
    (leads : index.Leads (records.map read)) {key : Key} {record : α} :
    ((index.position? key).bind fun position => records[position]?) = some record ↔
      record ∈ records ∧ read record = key := by
  simp only [Option.bind_eq_some_iff, leads key, List.getElem?_map, Option.map_eq_some_iff]
  constructor
  · rintro ⟨position, ⟨other, same, keyed⟩, stored⟩
    obtain rfl : other = record := Option.some.inj (same.symm.trans stored)
    exact ⟨List.mem_of_getElem? stored, keyed⟩
  · rintro ⟨mem, keyed⟩
    obtain ⟨position, stored⟩ := List.mem_iff_getElem?.mp mem
    exact ⟨position, ⟨record, stored, keyed⟩, stored⟩

/-- A new key is entered with the place after all others. -/
theorem Leads.enter (leads : index.Leads keys) {key : Key} (fresh : key ∉ keys) :
    (index.enter key keys.length).Leads (keys ++ [key]) := by
  intro other position
  have absent : keys[position]? ≠ some key := fun found => fresh (List.mem_of_getElem? found)
  rw [position?_enter]
  rcases Nat.lt_trichotomy position keys.length with old | rfl | beyond
  · rw [List.getElem?_append_left old, ← leads]
    split
    · next same => simp [same, absent, leads key position, Nat.ne_of_gt old]
    · rfl
  · have unused : index.position? other ≠ some keys.length := by simp [leads other]
    rw [List.getElem?_concat_length]
    split <;> simp_all [eq_comm]
  · have unused : index.position? other ≠ some position := by
      simp [leads other, List.getElem?_eq_none (Nat.le_of_lt beyond)]
    rw [List.getElem?_eq_none (by simpa [Nat.succ_le_iff] using beyond)]
    split
    · simpa using Nat.ne_of_lt beyond
    · simpa using unused

end KeyIndex

end EntitySurface
