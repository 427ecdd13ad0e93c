import EntitySurface.Proofs.Schema.Reachable

/-!
# The course of entities

A composition run never takes an entity away. What an entity becomes from one point of a run to a
later one is put together from additions and finalizations, so that a relation that holds across
each of them holds across the rest of the run.
-/

namespace EntitySurface

/-- A relation of entities to what additions and finalizations make of them. -/
structure Entity.Course (related : Entity → Entity → Prop) : Prop where
  refl : ∀ entity, related entity entity
  trans : ∀ {first middle last : Entity}, related first middle → related middle last →
    related first last
  addition : ∀ {schema : Schema} {entity grown : Entity}, entity.Addition schema grown →
    related entity grown
  /-- It holds across a finalization also when the finalization fails. -/
  finalize : ∀ entity : Entity, related entity entity.finalize.1

namespace Schema

open Composer

/-- Every entity of the schema is related to the entity that the other schema has under its key. -/
def Continues (related : Entity → Entity → Prop) (schema after : Schema) : Prop :=
  ∀ former ∈ schema.entities, ∃ entity ∈ after.entities,
    entity.key = former.key ∧ related former entity

variable {related : Entity → Entity → Prop} {schema middle after : Schema}

theorem continues_of_subset (refl : ∀ entity, related entity entity)
    (kept : schema.entities ⊆ after.entities) : schema.Continues related after := by
  intro former mem
  exact ⟨former, kept mem, rfl, refl former⟩

variable (course : Entity.Course related)
include course

theorem Continues.trans (first : schema.Continues related middle)
    (second : middle.Continues related after) : schema.Continues related after := by
  intro former mem
  rcases first former mem with ⟨between, betweenMem, betweenKey, firstRelated⟩
  rcases second between betweenMem with ⟨entity, entityMem, sameKey, secondRelated⟩
  exact ⟨entity, entityMem, sameKey.trans betweenKey, course.trans firstRelated secondRelated⟩

/-- An entity that grows takes its own place, and the other entities stay as they are. -/
theorem continues_replace {key : EntityKey} {found grown : Entity} (wellFormed : schema.WellFormed)
    (known : schema.entity? key = some found) (added : found.Addition schema grown) :
    schema.Continues related (schema.replace key grown) := by
  have replaced : (schema.replace key grown).WellFormed :=
    (Growth.of_addition known added).wellFormed wellFormed
  intro former mem
  have stored : schema.entity? former.key = some former :=
    wellFormed.entity?_eq_some_iff.mpr ⟨mem, rfl⟩
  have afterwards := wellFormed.entity?_replace known grown former.key
  by_cases same : former.key = key
  · rw [if_pos same] at afterwards
    rw [same, known, Option.some.injEq] at stored
    subst stored
    have grownMem := (replaced.entity?_eq_some_iff.mp afterwards).1
    exact ⟨grown, grownMem, added.key_eq, course.addition added⟩
  · rw [if_neg same, stored] at afterwards
    exact ⟨former, (replaced.entity?_eq_some_iff.mp afterwards).1, rfl, course.refl former⟩

theorem Growth.continues (growth : schema.Growth after) (wellFormed : schema.WellFormed) :
    schema.Continues related after := by
  induction growth with
  | refl => exact continues_of_subset course.refl (List.Subset.refl _)
  | step growth known added ih =>
      exact ih.trans course (continues_replace course (growth.wellFormed wellFormed) known added)

omit course in
/-- Finishing leaves no entity out, wherever it stops. -/
theorem mem_finalizeEach_of_mem {entities : List Entity} {former : Entity}
    (mem : former ∈ entities) :
    former ∈ (finalizeEach entities).1 ∨ former.finalize.1 ∈ (finalizeEach entities).1 := by
  induction entities with
  | nil => contradiction
  | cons first rest ih =>
      rw [finalizeEach_cons]
      rcases outcome : first.finalize with ⟨changed, _ | fault⟩
      · rcases List.mem_cons.mp mem with rfl | inRest
        · right
          rw [outcome]
          exact List.mem_cons_self
        · exact (ih inRest).imp (List.mem_cons_of_mem _) (List.mem_cons_of_mem _)
      · rcases List.mem_cons.mp mem with rfl | inRest
        · right
          rw [outcome]
          exact List.mem_cons_self
        · exact Or.inl (List.mem_cons_of_mem _ inRest)

theorem Change.continues (change : schema.Change after) (wellFormed : schema.WellFormed) :
    schema.Continues related after := by
  cases change with
  | nothing | namespaced | categorized =>
      exact continues_of_subset course.refl (List.Subset.refl _)
  | grown composing growth => exact growth.continues course wellFormed
  | declared => exact continues_of_subset course.refl (List.subset_append_left _ _)
  | interrupted | finished =>
      intro former mem
      rcases mem_finalizeEach_of_mem mem with same | settled
      · exact ⟨former, same, rfl, course.refl former⟩
      · exact ⟨former.finalize.1, settled, former.finalize_key, course.finalize former⟩

/-- What becomes of the entities of a schema on the rest of a run, whether its commands succeed or
fail. -/
theorem Reachable.continues_executeAll (reached : schema.Reachable) (commands : List Command) :
    schema.Continues related (schema.executeAll commands).1 := by
  induction commands generalizing schema with
  | nil => exact continues_of_subset course.refl (List.Subset.refl _)
  | cons command rest ih =>
      have change := execute_change reached.wellFormed command
      apply (change.continues course reached.wellFormed).trans course
      exact ih (reached.step command)

end Schema

end EntitySurface
