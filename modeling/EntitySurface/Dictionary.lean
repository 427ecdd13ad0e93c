/-!
# Dictionaries

Finite maps with text keys, kept in increasing key order, so that equal maps are equal lists and a
listing comes out sorted. Keys are compared by code points, which is also their byte order.
-/

namespace EntitySurface

/-- A finite map from texts; its entries stand in strictly increasing key order. -/
structure Dictionary (α : Type) where
  entries : List (String × α)
  ordered : entries.Pairwise fun first second => first.1 < second.1

namespace Dictionary

variable {α : Type}

/-- Put an entry at its place; an entry with the same key is replaced. -/
def insertEntry (key : String) (value : α) : List (String × α) → List (String × α)
  | [] => [(key, value)]
  | (other, kept) :: rest =>
      if key < other then (key, value) :: (other, kept) :: rest
      else if key = other then (key, value) :: rest
      else (other, kept) :: insertEntry key value rest

theorem fst_mem_insertEntry {key : String} {value : α} {entries : List (String × α)}
    {entry : String × α} (mem : entry ∈ insertEntry key value entries) :
    entry.1 = key ∨ entry ∈ entries := by
  induction entries with
  | nil => simp [insertEntry] at mem; simp [mem]
  | cons head rest ih =>
      obtain ⟨other, kept⟩ := head
      simp only [insertEntry] at mem
      split at mem
      · rcases List.mem_cons.mp mem with equal | tail
        · simp [equal]
        · exact Or.inr tail
      · split at mem
        · rcases List.mem_cons.mp mem with equal | tail
          · simp [equal]
          · exact Or.inr (List.mem_cons_of_mem _ tail)
        · rcases List.mem_cons.mp mem with equal | tail
          · simp [equal]
          · rcases ih tail with same | old
            · exact Or.inl same
            · exact Or.inr (List.mem_cons_of_mem _ old)

theorem insertEntry_ordered (key : String) (value : α) {entries : List (String × α)}
    (ordered : entries.Pairwise fun first second => first.1 < second.1) :
    (insertEntry key value entries).Pairwise fun first second => first.1 < second.1 := by
  induction entries with
  | nil => simp [insertEntry]
  | cons head rest ih =>
      obtain ⟨other, kept⟩ := head
      have tail := List.pairwise_cons.mp ordered
      simp only [insertEntry]
      split
      case isTrue before =>
        refine List.pairwise_cons.mpr ⟨?_, ordered⟩
        intro entry mem
        rcases List.mem_cons.mp mem with equal | inRest
        · simpa [equal] using before
        · exact String.lt_trans before (tail.1 entry inRest)
      case isFalse notBefore =>
        split
        case isTrue same =>
          subst same
          exact List.pairwise_cons.mpr ⟨tail.1, tail.2⟩
        case isFalse different =>
          refine List.pairwise_cons.mpr ⟨?_, ih tail.2⟩
          intro entry mem
          rcases fst_mem_insertEntry mem with equal | old
          · rw [equal]
            rcases Decidable.em (other < key) with less | notLess
            · exact less
            · exact absurd (String.le_antisymm (String.not_lt.mp notLess)
                (String.not_lt.mp notBefore)) different
          · exact tail.1 entry old

/-- The dictionary without entries. -/
def empty : Dictionary α :=
  ⟨[], List.Pairwise.nil⟩

/-- Set the value of a key. -/
def insert (dictionary : Dictionary α) (key : String) (value : α) : Dictionary α :=
  ⟨insertEntry key value dictionary.entries, insertEntry_ordered key value dictionary.ordered⟩

/-- The value of a key. -/
def find? (dictionary : Dictionary α) (key : String) : Option α :=
  dictionary.entries.lookup key

/-- The keys in increasing order. -/
def keys (dictionary : Dictionary α) : List String :=
  dictionary.entries.map Prod.fst

/-- Collect entries; of two with the same key the later one stays. -/
def ofList (entries : List (String × α)) : Dictionary α :=
  entries.foldl (fun dictionary entry => dictionary.insert entry.1 entry.2) empty

theorem find?_empty (key : String) : (empty : Dictionary α).find? key = none := rfl

theorem lookup_cons_entry (key other : String) (value : α) (entries : List (String × α)) :
    ((key, value) :: entries).lookup other =
      if other = key then some value else entries.lookup other := by
  by_cases same : other = key
  · simp [same]
  · have apart : (other == key) = false := by simpa using same
    simp [List.lookup_cons, same, apart]

theorem lookup_insertEntry (key other : String) (value : α) (entries : List (String × α)) :
    (insertEntry key value entries).lookup other =
      if other = key then some value else entries.lookup other := by
  induction entries with
  | nil => exact lookup_cons_entry key other value []
  | cons head rest ih =>
      obtain ⟨first, kept⟩ := head
      by_cases before : key < first
      · rw [insertEntry, if_pos before, lookup_cons_entry]
      · by_cases equal : key = first
        · subst equal
          rw [insertEntry, if_neg before, if_pos rfl, lookup_cons_entry, lookup_cons_entry]
          by_cases same : other = key <;> simp [same]
        · rw [insertEntry, if_neg before, if_neg equal, lookup_cons_entry, lookup_cons_entry, ih]
          by_cases same : other = key
          · subst same
            simp [equal]
          · simp [same]

/-- Setting a key changes the value of that key and of no other. -/
theorem find?_insert (dictionary : Dictionary α) (key other : String) (value : α) :
    (dictionary.insert key value).find? other =
      if other = key then some value else dictionary.find? other :=
  lookup_insertEntry key other value dictionary.entries

end Dictionary

end EntitySurface
