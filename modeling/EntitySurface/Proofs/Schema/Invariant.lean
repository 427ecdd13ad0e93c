import EntitySurface.Proofs.Entity.Modules
import EntitySurface.Proofs.Schema.Reachable

/-!
# What entities keep along a run

An entity has the key that it was declared with, whatever is added to it later. So every key of a
schema has a name and a namespace that composition accepts. And a property of entities that holds of
every new entity and that additions and finalization keep holds of every entity of every schema that
a composition run leads to.
-/

namespace EntitySurface

/-! ## Keys -/

namespace Schema

variable {schema after : Schema}

/-- Growth keeps the keys. -/
theorem Growth.map_key (growth : schema.Growth after) :
    after.entities.map Entity.key = schema.entities.map Entity.key := by
  induction growth with
  | refl => rfl
  | step growth known added ih => exact (map_key_replace known added.key_eq).trans ih

/-- A change keeps the keys, or it declares an entity with names that are accepted. -/
theorem Change.map_key (change : schema.Change after) :
    after.entities.map Entity.key = schema.entities.map Entity.key ∨
      ∃ key : EntityKey, key.IsNamed ∧
        after.entities.map Entity.key = schema.entities.map Entity.key ++ [key] := by
  cases change with
  | nothing | namespaced | categorized => exact Or.inl rfl
  | grown composing growth => exact Or.inl growth.map_key
  | @declared space name composing namespaced identifier fresh label =>
      exact Or.inr ⟨⟨space, name⟩, ⟨identifier, namespaced⟩, List.map_append⟩
  | interrupted | finished => exact Or.inl (map_key_finalizeEach schema.entities)

namespace Reachable

theorem forall_key_isNamed (reached : schema.Reachable) :
    ∀ key ∈ schema.entities.map Entity.key, key.IsNamed := by
  induction reached with
  | start name => nofun
  | step command reached ih =>
      intro key mem
      rcases (execute_change reached.wellFormed command).map_key with same | ⟨new, named, same⟩
      · rw [same] at mem
        exact ih key mem
      · rw [same] at mem
        rcases List.mem_append.mp mem with old | added
        · exact ih key old
        · rwa [List.mem_singleton.mp added]

/-- The names and namespaces of all entities are accepted by composition. -/
theorem isNamed (reached : schema.Reachable) {entity : Entity} (mem : entity ∈ schema.entities) :
    entity.key.IsNamed :=
  reached.forall_key_isNamed entity.key (List.mem_map_of_mem mem)

end Reachable

end Schema

/-! ## Invariants -/

/-- What holds of new entities and is kept by everything that happens to an entity. -/
structure Entity.Invariant (holds : Entity → Prop) : Prop where
  declared : ∀ key label, holds { key, label }
  addition : ∀ {schema : Schema} {entity grown : Entity}, entity.WellFormed →
    entity.Addition schema grown → holds entity → holds grown
  /-- Finalization keeps it also when it fails. -/
  finalize : ∀ {entity : Entity}, holds entity → holds entity.finalize.1

namespace Schema

open Composer

variable {schema after : Schema} {holds : Entity → Prop} (invariant : Entity.Invariant holds)
include invariant

theorem Growth.forall_entities (growth : schema.Growth after) (wellFormed : schema.WellFormed)
    (all : ∀ entity ∈ schema.entities, holds entity) : ∀ entity ∈ after.entities, holds entity := by
  induction growth with
  | refl => exact all
  | @step last key found grown growth known added ih =>
      have sound := growth.wellFormed wellFormed
      have before := (sound.entity?_eq_some_iff.mp known).1
      obtain ⟨position, entered, -⟩ := entity?_eq_some_iff_getElem?.mp known
      rw [replace_eq entered]
      intro entity mem
      rcases List.mem_or_eq_of_mem_set mem with old | rfl
      · exact ih entity old
      · exact invariant.addition (sound.entity known) added (ih found before)

theorem forall_finalizeEach (all : ∀ entity ∈ schema.entities, holds entity) :
    ∀ entity ∈ (finalizeEach schema.entities).1, holds entity := by
  intro entity mem
  rcases mem_finalizeEach mem with old | ⟨before, old, rfl⟩
  · exact all entity old
  · exact invariant.finalize (all before old)

theorem Change.forall_entities (change : schema.Change after) (wellFormed : schema.WellFormed)
    (all : ∀ entity ∈ schema.entities, holds entity) : ∀ entity ∈ after.entities, holds entity := by
  cases change with
  | nothing | namespaced | categorized => exact all
  | grown composing growth => exact growth.forall_entities invariant wellFormed all
  | declared composing namespaced identifier fresh label =>
      intro entity mem
      rcases List.mem_append.mp mem with old | new
      · exact all entity old
      · rw [List.mem_singleton.mp new]
        exact invariant.declared _ label
  | interrupted | finished => exact forall_finalizeEach invariant all

/-- An invariant of entities holds throughout every composition run. -/
theorem Reachable.forall_entities (reached : schema.Reachable) :
    ∀ entity ∈ schema.entities, holds entity := by
  induction reached with
  | start name => nofun
  | step command reached ih =>
      have change := execute_change reached.wellFormed command
      exact change.forall_entities invariant reached.wellFormed ih

end Schema

end EntitySurface
