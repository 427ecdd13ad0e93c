import EntitySurface.Proofs.Schema.Reachable

/-!
# When a schema can be finished

Finishing a schema checks what could not be checked while it grew. The check is exact: a schema that
is still being composed can be finished exactly when every entity that is referred to is there,
every property has the siblings that its kind needs, every declared hook has a target and every
loader alias has a column.
-/

namespace EntitySurface

namespace Composer

variable {schema : Schema}

/-! ## The two checks -/

/-- Deferred bindings are the dependencies of schedules and the parents of sub-object rules. -/
theorem mem_deferredBindings_iff {property : Property} {key : EntityKey} :
    key ∈ deferredBindings property ↔
      property.kind = .schedule key ∨ .sameParent key ∈ property.rules := by
  unfold deferredBindings
  rw [List.mem_append, List.mem_filterMap]
  apply or_congr
  · cases property.kind <;> simp [eq_comm]
  · constructor
    · rintro ⟨rule, mem, bound⟩
      cases rule <;> simp_all
    · exact fun mem => ⟨_, mem, rfl⟩

theorem unresolvedBinding?_eq_none_iff (wellFormed : schema.WellFormed) :
    unresolvedBinding? schema = none ↔
      ∀ entity ∈ schema.entities, ∀ property ∈ entity.properties,
        ∀ key ∈ deferredBindings property, ∃ other ∈ schema.entities, other.key = key := by
  simp [unresolvedBinding?, ← wellFormed.contains_iff]

/-- A missing entity is no hook target. -/
theorem unresolvedBinding?_ne_unknownHookTarget {key : EntityKey} {method origin : String} :
    unresolvedBinding? schema ≠ some (.unknownHookTarget key method origin) := by
  intro same
  obtain ⟨entity, -, inEntity⟩ := List.exists_of_findSome?_eq_some same
  obtain ⟨property, -, inProperty⟩ := List.exists_of_findSome?_eq_some inEntity
  obtain ⟨missing, -, fault⟩ := Option.map_eq_some_iff.mp inProperty
  cases fault

theorem finalizeEach_eq_none_iff {entities : List Entity} :
    (finalizeEach entities).2 = none ↔ ∀ entity ∈ entities, entity.finalize.2 = none := by
  induction entities with
  | nil => simp [finalizeEach]
  | cons entity rest ih =>
      rw [Schema.finalizeEach_cons, List.forall_mem_cons]
      rcases entity.finalize with ⟨changed, _ | fault⟩
      · simpa using ih
      · simp

/-- What stops finalization is the fault of one entity. -/
theorem exists_of_finalizeEach_eq_some {entities : List Entity} {fault : Fault}
    (failed : (finalizeEach entities).2 = some fault) :
    ∃ entity ∈ entities, entity.finalize.2 = some fault := by
  induction entities with
  | nil => simp [finalizeEach] at failed
  | cons entity rest ih =>
      rw [Schema.finalizeEach_cons] at failed
      rcases outcome : entity.finalize with ⟨changed, _ | cause⟩
      · rw [outcome] at failed
        obtain ⟨other, mem, cause⟩ := ih failed
        exact ⟨other, List.mem_cons_of_mem _ mem, cause⟩
      · rw [outcome] at failed
        exact ⟨entity, List.mem_cons_self, by rw [outcome]; exact failed⟩

end Composer

namespace Schema

open Composer

variable {schema : Schema}

theorem execute_finish_of_composing (composing : schema.phase = .composing) :
    schema.execute .finish =
      match unresolvedBinding? schema, finalizeEach schema.entities with
      | some fault, _ => (schema, some fault)
      | none, (entities, some fault) => ({ schema with entities }, some fault)
      | none, (entities, none) => ({ schema with entities, phase := .finalized }, none) := by
  simp only [execute, Command.step]
  rw [finish_eq composing]
  rcases unresolvedBinding? schema with _ | fault
  · rcases finalizeEach schema.entities with ⟨entities, _ | fault⟩ <;> rfl
  · rfl

/-- The first fault of finishing: a missing entity, or what is wrong with one of the entities. -/
theorem execute_finish_fault (composing : schema.phase = .composing) :
    (schema.execute .finish).2 =
      match unresolvedBinding? schema with
      | some fault => some fault
      | none => (finalizeEach schema.entities).2 := by
  rw [execute_finish_of_composing composing]
  cases unresolvedBinding? schema with
  | some fault => rfl
  | none => rcases finalizeEach schema.entities with ⟨entities, _ | fault⟩ <;> rfl

theorem execute_finish_eq_none_iff (wellFormed : schema.WellFormed)
    (composing : schema.phase = .composing) :
    (schema.execute .finish).2 = none ↔
      (∀ entity ∈ schema.entities, ∀ property ∈ entity.properties,
        ∀ key ∈ deferredBindings property, ∃ other ∈ schema.entities, other.key = key) ∧
      ∀ entity ∈ schema.entities, entity.Complete ∧ entity.HooksResolve ∧
        ∀ header ∈ entity.loaderAliases, header.column ∈ entity.columns := by
  rw [execute_finish_fault composing, ← unresolvedBinding?_eq_none_iff wellFormed]
  have settled_iff : (finalizeEach schema.entities).2 = none ↔
      ∀ entity ∈ schema.entities, entity.Complete ∧ entity.HooksResolve ∧
        ∀ header ∈ entity.loaderAliases, header.column ∈ entity.columns := by
    rw [finalizeEach_eq_none_iff]
    apply forall₂_congr
    intro entity mem
    exact (wellFormed.entities entity mem).finalize_eq_none_iff
  cases unresolvedBinding? schema with
  | some fault => simp
  | none => simpa using settled_iff

namespace Reachable

/-- A schema that is still being composed can be finished exactly when nothing is missing; and a
hook that is refused is always a declared one, whose target is missing. -/
theorem finish_succeeds_iff (reached : schema.Reachable) (composing : schema.phase = .composing) :
    ((schema.execute .finish).2 = none ↔
      ∀ entity ∈ schema.entities,
        (∀ property ∈ entity.properties,
          (∀ dependency, property.kind = .schedule dependency →
            ∃ other ∈ schema.entities, other.key = dependency) ∧
          (∀ parent, .sameParent parent ∈ property.rules →
            ∃ other ∈ schema.entities, other.key = parent)) ∧
        (∀ property ∈ entity.properties,
          (∀ tag ∈ property.tag.preconditions, ∃ sibling ∈ entity.properties, sibling.tag = tag) ∧
          (property.tag = .lastUpdate →
            ∃ sibling ∈ entity.properties, sibling.tag = .uniqueIdentified)) ∧
        (∀ property ∈ entity.properties, ∀ hook ∈ property.declaredHooks,
          ∃ origin ∈ entity.properties, origin.name = hook.origin ∧
            (origin.kind.method? hook.method).isSome) ∧
        (∀ header ∈ entity.loaderAliases, header.column ∈ entity.columns)) ∧
    (∀ key method origin,
      (schema.execute .finish).2 = some (.unknownHookTarget key method origin) →
        ∃ entity ∈ schema.entities, entity.key = key ∧
          ∃ property ∈ entity.properties, ∃ hook ∈ property.declaredHooks,
            hook.method = method ∧ hook.origin = origin ∧
              ¬ ∃ target ∈ entity.properties, target.name = origin ∧
                (target.kind.method? method).isSome) := by
  have wellFormed := reached.wellFormed
  constructor
  · rw [execute_finish_eq_none_iff wellFormed composing]
    constructor
    · rintro ⟨bound, sound⟩ entity mem
      refine ⟨fun property stored => ⟨fun dependency scheduled => ?_, fun parent ruled => ?_⟩,
        sound entity mem⟩
      · exact bound entity mem property stored dependency
          (mem_deferredBindings_iff.mpr (Or.inl scheduled))
      · exact bound entity mem property stored parent
          (mem_deferredBindings_iff.mpr (Or.inr ruled))
    · intro sound
      refine ⟨fun entity mem property stored key deferred => ?_,
        fun entity mem => (sound entity mem).2⟩
      obtain ⟨scheduled, ruled⟩ := (sound entity mem).1 property stored
      exact (mem_deferredBindings_iff.mp deferred).elim (scheduled key) (ruled key)
  · intro key method origin refused
    rw [execute_finish_fault composing] at refused
    cases unbound : unresolvedBinding? schema with
    | some fault =>
        rw [unbound] at refused
        cases refused
        exact absurd unbound unresolvedBinding?_ne_unknownHookTarget
    | none =>
        rw [unbound] at refused
        obtain ⟨entity, mem, failed⟩ := exists_of_finalizeEach_eq_some refused
        obtain ⟨rfl, declared⟩ :=
          (wellFormed.entities entity mem).exists_declared_of_unknownHookTarget failed
        exact ⟨entity, mem, rfl, declared⟩

/-- Customers without the companions of other entities can be finished, and so nothing is missing
from them: the log of updates finds the identity that it hooks into. -/
theorem finish_succeeds_customers :
    let schema := (({ name := "sales" } : Schema).executeAll Demo.Sales.customers).1
    schema.phase = .composing ∧ (schema.execute .finish).2 = none ∧
      ∀ entity ∈ schema.entities, ∀ property ∈ entity.properties, property.tag = .lastUpdate →
        ∃ sibling ∈ entity.properties, sibling.tag = .uniqueIdentified := by
  have composing : (({ name := "sales" } : Schema).executeAll Demo.Sales.customers).1.phase =
      .composing := by decide +kernel
  have finished : ((({ name := "sales" } : Schema).executeAll Demo.Sales.customers).1.execute
      .finish).2 = none := by decide +kernel
  refine ⟨composing, finished, fun entity mem property stored => ?_⟩
  have reached := (Reachable.start "sales").executeAll Demo.Sales.customers
  exact (((reached.finish_succeeds_iff composing).1.mp finished entity mem).2.1 property stored).2

end Reachable

end Schema

end EntitySurface
