import EntitySurface.Proofs.Entity.Settled
import EntitySurface.Proofs.Schema.Reachable

/-!
# Finalized schemas

A schema becomes finalized only by finishing it, and then each of its entities has just been
finalized. Nothing changes it any more afterwards.
-/

namespace EntitySurface

namespace Composer

/-- Where finalization reaches the end, each entity is the outcome of finalizing another one. -/
theorem exists_finalize_of_mem_finalizeEach {entities : List Entity}
    (succeeded : (finalizeEach entities).2 = none) {entity : Entity}
    (mem : entity ∈ (finalizeEach entities).1) :
    ∃ before ∈ entities, before.finalize = (entity, none) := by
  induction entities with
  | nil => contradiction
  | cons first rest ih =>
      rw [Schema.finalizeEach_cons] at succeeded mem
      rcases outcome : first.finalize with ⟨changed, _ | fault⟩
      · rw [outcome] at succeeded mem
        rcases List.mem_cons.mp mem with rfl | inRest
        · exact ⟨first, List.mem_cons_self, outcome⟩
        · obtain ⟨before, old, finalized⟩ := ih succeeded inRest
          exact ⟨before, List.mem_cons_of_mem _ old, finalized⟩
      · rw [outcome] at succeeded
        contradiction

end Composer

namespace Schema

open Composer

variable {schema after : Schema}

/-- A change that ends in a finalized schema finishes it, or it did nothing. -/
theorem Change.eq_or_finished (change : schema.Change after)
    (finalized : after.phase = .finalized) :
    after = schema ∨ unresolvedBinding? schema = none ∧ (finalizeEach schema.entities).2 = none ∧
      after = { schema with
        entities := (finalizeEach schema.entities).1, phase := .finalized } := by
  cases change with
  | nothing => exact Or.inl rfl
  | grown composing growth =>
      obtain ⟨entities, rfl⟩ := growth.eq_with_entities
      rw [composing] at finalized
      contradiction
  | finished composing bound succeeded => exact Or.inr ⟨bound, succeeded, rfl⟩
  | declared composing | namespaced composing | categorized composing | interrupted composing =>
      have unchanged : schema.phase = .finalized := finalized
      rw [composing] at unchanged
      contradiction

namespace Reachable

/-- Each entity of a finalized schema is the outcome of a finalization without a fault. -/
theorem exists_finalize (reached : schema.Reachable) (finalized : schema.phase = .finalized) :
    ∀ entity ∈ schema.entities, ∃ before : Entity, before.finalize = (entity, none) := by
  induction reached with
  | start name => contradiction
  | step command reached ih =>
      rcases (execute_change reached.wellFormed command).eq_or_finished finalized with
        same | ⟨-, succeeded, finished⟩
      · rw [same] at finalized ⊢
        exact ih finalized
      · rw [finished]
        intro entity mem
        obtain ⟨before, -, done⟩ := exists_finalize_of_mem_finalizeEach succeeded mem
        exact ⟨before, done⟩

/-- The entities of a finalized schema are settled. -/
theorem settled (reached : schema.Reachable) (finalized : schema.phase = .finalized) :
    ∀ entity ∈ schema.entities, entity.Settled := by
  intro entity mem
  obtain ⟨before, done⟩ := reached.exists_finalize finalized entity mem
  exact Entity.settled_of_finalize done

/-- In a finalized schema, every hook is put around a method of a stored property. -/
theorem exists_hookOrigin (reached : schema.Reachable) (finalized : schema.phase = .finalized)
    {entity : Entity} (mem : entity ∈ schema.entities) {property : Property}
    (stored : property ∈ entity.properties) {hook : MethodHook} (inHooks : hook ∈ property.hooks) :
    ∃ origin ∈ entity.properties, origin.name = hook.origin ∧
      ∃ method, origin.kind.method? hook.method = some method := by
  have names := (reached.wellFormed.entities entity mem).propertyNames
  obtain ⟨before, done⟩ := reached.exists_finalize finalized entity mem
  have targeted := Entity.hasMethod_of_finalize done property stored hook inHooks
  obtain ⟨origin, inProperties, named, declared⟩ := (Entity.hasMethod_iff names).mp targeted
  exact ⟨origin, inProperties, named, Option.isSome_iff_exists.mp declared⟩

end Reachable

end Schema

end EntitySurface
