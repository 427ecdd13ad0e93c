import EntitySurface.Proofs.Entity.WellFormed
import EntitySurface.Schema.Basic

/-!
# Well-formed schemas

A schema is well-formed when its index leads from a key to the position of the entity with that key
and from nothing else, and when every entity is well-formed. Then looking an entity up by its key
finds it exactly when it is stored, and replacing it changes this one look-up only.
-/

namespace EntitySurface.Schema

variable {schema : Schema} {key : EntityKey} {found changed : Entity}

/-! ## Look-ups -/

theorem entity?_eq_some_iff_getElem? :
    schema.entity? key = some found ↔
      ∃ position, schema.index.position? key = some position ∧
        schema.entities[position]? = some found := by
  simp [entity?, Option.bind_eq_some_iff]

theorem replace_eq {position : Nat} (entered : schema.index.position? key = some position)
    (changed : Entity) :
    schema.replace key changed =
      { schema with entities := schema.entities.set position changed } := by
  simp only [replace, entered]

/-- Replacing an entity changes the list of entities and nothing else. -/
theorem replace_eq_with_entities (schema : Schema) (key : EntityKey) (changed : Entity) :
    ∃ entities, schema.replace key changed = { schema with entities } := by
  unfold replace
  split
  · exact ⟨_, rfl⟩
  · exact ⟨schema.entities, rfl⟩

/-- The entity that was put in the place of another one is found there. -/
theorem entity?_replace_self (known : schema.entity? key = some found) (changed : Entity) :
    (schema.replace key changed).entity? key = some changed := by
  obtain ⟨position, entered, stored⟩ := entity?_eq_some_iff_getElem?.mp known
  have inRange := (List.getElem?_eq_some_iff.mp stored).1
  rw [replace_eq entered, entity?_eq_some_iff_getElem?]
  exact ⟨position, entered, List.getElem?_set_self inRange⟩

/-- Of two replacements of the same entity, the second counts. -/
theorem replace_replace (schema : Schema) (key : EntityKey) (first second : Entity) :
    (schema.replace key first).replace key second = schema.replace key second := by
  cases entered : schema.index.position? key with
  | none => simp only [replace, entered]
  | some position =>
      rw [replace_eq entered, replace_eq entered]
      simp only [replace, entered, List.set_set]

theorem replace_self (known : schema.entity? key = some found) :
    schema.replace key found = schema := by
  obtain ⟨position, entered, stored⟩ := entity?_eq_some_iff_getElem?.mp known
  obtain ⟨inRange, rfl⟩ := List.getElem?_eq_some_iff.mp stored
  rw [replace_eq entered, List.set_getElem_self]

/-- An entity that takes the place of another one with its key leaves the keys as they are. -/
theorem map_key_replace (known : schema.entity? key = some found)
    (sameKey : changed.key = found.key) :
    (schema.replace key changed).entities.map Entity.key = schema.entities.map Entity.key := by
  obtain ⟨position, entered, stored⟩ := entity?_eq_some_iff_getElem?.mp known
  obtain ⟨inRange, atPosition⟩ := List.getElem?_eq_some_iff.mp stored
  rw [replace_eq entered, List.map_set, sameKey, ← atPosition, ← List.getElem_map Entity.key,
    List.set_getElem_self]
  simpa using inRange

/-! ## The invariant -/

/-- The representation invariant of a schema. -/
structure WellFormed (schema : Schema) : Prop where
  indexed : ∀ key position, schema.index.position? key = some position ↔
    ∃ entity, schema.entities[position]? = some entity ∧ entity.key = key
  entities : ∀ entity ∈ schema.entities, entity.WellFormed

namespace WellFormed

variable (wellFormed : schema.WellFormed)
include wellFormed

/-- The index leads from the keys to their places among the stored keys. -/
theorem leads : schema.index.Leads (schema.entities.map Entity.key) := by
  intro key position
  rw [wellFormed.indexed, List.getElem?_map, Option.map_eq_some_iff]

/-- Looking a key up finds the stored entity with this key. -/
theorem entity?_eq_some_iff :
    schema.entity? key = some found ↔ found ∈ schema.entities ∧ found.key = key :=
  wellFormed.leads.bind_getElem?_eq_some_iff

theorem entity (known : schema.entity? key = some found) : found.WellFormed :=
  wellFormed.entities found (wellFormed.entity?_eq_some_iff.mp known).1

theorem key_eq (known : schema.entity? key = some found) : found.key = key :=
  (wellFormed.entity?_eq_some_iff.mp known).2

theorem eq_of_key_eq {first second : Entity} (firstMem : first ∈ schema.entities)
    (secondMem : second ∈ schema.entities) (same : first.key = second.key) : first = second := by
  have found := wellFormed.entity?_eq_some_iff.mpr ⟨firstMem, same⟩
  rw [wellFormed.entity?_eq_some_iff.mpr ⟨secondMem, rfl⟩, Option.some.injEq] at found
  exact found.symm

theorem nodup_keys : (schema.entities.map Entity.key).Nodup :=
  wellFormed.leads.nodup

/-- A key is known exactly when an entity with this key is stored. -/
theorem contains_iff :
    schema.contains key = true ↔ ∃ entity ∈ schema.entities, entity.key = key := by
  rw [contains, wellFormed.leads.contains_iff, List.mem_map]

/-- Replacing an entity does not affect what is found under other keys. -/
theorem entity?_replace (known : schema.entity? key = some found) (changed : Entity)
    (other : EntityKey) :
    (schema.replace key changed).entity? other =
      if other = key then some changed else schema.entity? other := by
  by_cases same : other = key
  · rw [if_pos same, same, entity?_replace_self known]
  · rw [if_neg same]
    obtain ⟨position, entered, stored⟩ := entity?_eq_some_iff_getElem?.mp known
    rw [replace_eq entered]
    simp only [Schema.entity?]
    cases elsewhere : schema.index.position? other with
    | none => rfl
    | some otherPosition =>
        have apart : position ≠ otherPosition := by
          rintro rfl
          obtain ⟨first, atFirst, firstKeyed⟩ := (wellFormed.indexed key position).mp entered
          obtain ⟨second, atSecond, secondKeyed⟩ := (wellFormed.indexed other position).mp elsewhere
          rw [atFirst, Option.some.injEq] at atSecond
          exact same (secondKeyed.symm.trans (atSecond ▸ firstKeyed))
        simp [List.getElem?_set_ne apart]

/-- Replacing entities by well-formed entities of the same keys, place by place. -/
theorem of_keys {entities : List Entity}
    (same : entities.map Entity.key = schema.entities.map Entity.key)
    (sound : ∀ entity ∈ entities, entity.WellFormed) {phase : Phase} :
    { schema with entities, phase }.WellFormed where
  indexed key position := by
    rw [wellFormed.indexed key position]
    have keyAt : (entities[position]?).map Entity.key =
        (schema.entities[position]?).map Entity.key := by
      rw [← List.getElem?_map, ← List.getElem?_map, same]
    constructor
    · rintro ⟨entity, stored, keyed⟩
      rw [stored] at keyAt
      obtain ⟨other, otherStored, equal⟩ := Option.map_eq_some_iff.mp keyAt
      exact ⟨other, otherStored, equal.trans keyed⟩
    · rintro ⟨entity, stored, keyed⟩
      dsimp only at stored
      rw [stored] at keyAt
      obtain ⟨other, otherStored, equal⟩ := Option.map_eq_some_iff.mp keyAt.symm
      exact ⟨other, otherStored, equal.trans keyed⟩
  entities := sound

theorem withCatalog (catalog : Catalog) : { schema with catalog }.WellFormed :=
  { wellFormed with }

theorem replace (known : schema.entity? key = some found) (sameKey : changed.key = found.key)
    (sound : changed.WellFormed) : (schema.replace key changed).WellFormed := by
  have keys := map_key_replace known sameKey
  obtain ⟨position, entered, stored⟩ := entity?_eq_some_iff_getElem?.mp known
  rw [replace_eq entered] at keys ⊢
  apply wellFormed.of_keys keys
  intro entity mem
  rcases List.mem_or_eq_of_mem_set mem with old | rfl
  · exact wellFormed.entities entity old
  · exact sound

/-- A new entity stands after all others, and its key leads there. -/
theorem declare (fresh : schema.contains key = false) (label : String) :
    (schema.declare key label).WellFormed where
  indexed := by
    have unused : key ∉ schema.entities.map Entity.key := by
      rw [← wellFormed.leads.contains_iff, ← contains, fresh]
      exact Bool.false_ne_true
    have entered := wellFormed.leads.enter unused
    intro other position
    rw [← Option.map_eq_some_iff, ← List.getElem?_map]
    simpa [Schema.declare] using entered other position
  entities := by
    intro entity mem
    rcases List.mem_append.mp mem with old | new
    · exact wellFormed.entities entity old
    · rw [List.mem_singleton.mp new]
      exact Entity.WellFormed.declared key label

end WellFormed

/-- The empty schema is well-formed. -/
theorem wellFormed_start (name : String) : ({ name } : Schema).WellFormed where
  indexed := by simp
  entities := by simp

end EntitySurface.Schema
