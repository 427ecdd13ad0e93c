import Mathlib.Algebra.BigOperators.Group.List.Basic
import EntitySurface.Proofs.Entity.HookChains
import EntitySurface.Proofs.Entity.Legacy

/-!
# Hook chains without legacy properties

A built-in hook is put around a method of the first stored property of a kind. When this property is
legacy, the hook is woven into no chain; when the legacy properties are deleted, it moves to the
first active property of the kind. All other hooks stay where they are.
-/

namespace EntitySurface

namespace Entity

/-- An active property has a built-in hook around a method of a legacy property. -/
def LegacyHooked (entity : Entity) : Prop :=
  ∃ property ∈ entity.activeProperties, ∃ settings, property.resolved = some settings ∧
    ∃ hook ∈ settings.hooks, ∃ origin ∈ entity.properties, origin.isLegacy = true ∧
      origin.name = hook.origin

/-- The hooks of the active properties of a settled entity. -/
theorem Settled.flatMap_hooks_eq {entity : Entity} (settled : entity.Settled) :
    entity.activeProperties.flatMap Property.hooks = entity.activeProperties.flatMap fun property =>
      property.plannedHooks (entity.siblings []) ++ property.declaredHooks :=
  List.flatMap_congr fun _ mem => settled.hooks_eq (mem_activeProperties_iff.mp mem).1

/-- The first property of the kind that the hook is planned for is legacy. -/
theorem legacyHooked_iff {entity : Entity} (settled : entity.Settled)
    (names : (entity.properties.map Property.name).Nodup) :
    entity.LegacyHooked ↔ ∃ property ∈ entity.activeProperties, ∃ plan ∈ property.hookPlans,
      ∃ origin, entity.properties.find? (fun sibling => sibling.tag == plan.tag) = some origin ∧
        origin.isLegacy = true := by
  apply exists_congr
  intro property
  apply and_congr_right
  intro inActive
  obtain ⟨mem, -⟩ := mem_activeProperties_iff.mp inActive
  obtain ⟨earlier, later, split⟩ := List.append_of_mem mem
  constructor
  · rintro ⟨settings, resolved, hook, inHooks, origin, stored, legacy, named⟩
    rw [settled.resolved_eq split] at resolved
    cases resolved
    obtain ⟨plan, inPlans, planned⟩ := List.mem_filterMap.mp inHooks
    obtain ⟨first, found, rfl⟩ := Option.map_eq_some_iff.mp planned
    have same : origin = first :=
      List.inj_on_of_nodup_map names stored (List.mem_of_find?_eq_some found) named
    exact ⟨plan, inPlans, first, found, same ▸ legacy⟩
  · rintro ⟨plan, inPlans, origin, found, legacy⟩
    have planned : property.plannedHook? (entity.siblings []) plan =
        some ⟨property.name, plan.method, origin.name, plan.phase, plan.label⟩ := by
      rw [Property.plannedHook?, Siblings.first?, siblings, found]
      rfl
    exact ⟨_, settled.resolved_eq split, _, List.mem_filterMap.mpr ⟨plan, inPlans, planned⟩,
      origin, List.mem_of_find?_eq_some found, legacy, rfl⟩

namespace Reduces

variable {entity reduced : Entity} (reduces : Reduces entity reduced)
include reduces

/-! ## Hooks of one property -/

/-- The origin of a planned hook after the deletion is the first active one. -/
theorem plannedHook?_eq (property : Property) (plan : HookPlan) :
    property.plannedHook? (reduced.siblings []) plan =
      (entity.activeProperties.find? fun sibling => sibling.tag == plan.tag).map fun origin =>
        { declaring := property.name, method := plan.method, origin := origin.name
          phase := plan.phase, label := plan.label } := by
  have same := congrArg (Option.map fun origin : Property => ({
    declaring := property.name, method := plan.method, origin := origin.name
    phase := plan.phase, label := plan.label } : MethodHook))
    (Property.map_find?_of_unresolved plan.tag reduces.unresolved)
  rw [Option.map_map, Option.map_map] at same
  exact same

theorem flatMap_hooks_eq : reduced.activeProperties.flatMap Property.hooks =
    entity.activeProperties.flatMap fun property =>
      property.plannedHooks (reduced.siblings []) ++ property.declaredHooks := by
  rw [reduces.settled.flatMap_hooks_eq, List.flatMap_def, List.flatMap_def,
    reduces.activeProperties_eq]
  exact congrArg List.flatten (reduces.map_eq_map fun _ => rfl)

/-- Unless a built-in hook of an active property is put around a method of a legacy property, the
deletion leaves the hooks of the active properties as they are. -/
theorem flatMap_hooks_eq_of_not_legacyHooked
    (names : (entity.properties.map Property.name).Nodup) (settled : entity.Settled)
    (free : ¬ entity.LegacyHooked) : reduced.activeProperties.flatMap Property.hooks =
      entity.activeProperties.flatMap Property.hooks := by
  rw [reduces.flatMap_hooks_eq, settled.flatMap_hooks_eq]
  apply List.flatMap_congr
  intro property inActive
  refine congrArg (· ++ property.declaredHooks) (List.filterMap_congr fun plan inPlans => ?_)
  obtain ⟨origin, found⟩ := settled.exists_origin (mem_activeProperties_iff.mp inActive).1 inPlans
  rw [reduces.plannedHook?_eq, Property.plannedHook?, Siblings.first?, siblings, found]
  cases legacy : origin.isLegacy with
  | false => rw [activeProperties, find?_filter_of_find? found (by simp [legacy])]
  | true =>
      exact absurd ((legacyHooked_iff settled names).mpr
        ⟨property, inActive, plan, inPlans, origin, found, legacy⟩) free

/-! ## Chains -/

omit reduces in
theorem countP_flatMap_append {α β : Type} (test : α → Bool) (list : List β)
    (first second : β → List α) :
    (list.flatMap fun item => first item ++ second item).countP test =
      (list.flatMap first).countP test + (list.flatMap second).countP test := by
  simp only [List.countP_flatMap, Function.comp_def, List.countP_append, List.sum_map_add]

theorem hookTargets_eq : reduced.hookTargets = entity.hookTargets := by
  simp only [hookTargets, List.flatMap_def, reduces.activeProperties_eq]
  exact congrArg List.flatten (reduces.map_eq_map fun _ => rfl)

theorem hookChains_eq_of_not_legacyHooked (names : (entity.properties.map Property.name).Nodup)
    (settled : entity.Settled) (free : ¬ entity.LegacyHooked) :
    reduced.hookChains = entity.hookChains := by
  have around : ∀ method origin, reduced.hooksAround method origin =
      entity.hooksAround method origin := by
    intro method origin
    rw [hooksAround, hooksAround, reduces.flatMap_hooks_eq_of_not_legacyHooked names settled free]
  have chains : reduced.chainFor = entity.chainFor := by
    funext target
    simp only [chainFor, chainAround, around, reduces.key_eq]
  rw [hookChains_eq reduces.settled.finalized (reduces.names names),
    hookChains_eq settled.finalized names, reduces.hookTargets_eq, chains]

/-- A kind that an active property needs for a hook is there without the legacy properties. -/
theorem exists_active_origin {property : Property} (inActive : property ∈ entity.activeProperties)
    {plan : HookPlan} (inPlans : plan ∈ property.hookPlans) :
    ∃ target, entity.activeProperties.find? (fun sibling => sibling.tag == plan.tag) =
      some target := by
  have inMap := List.mem_map_of_mem (f := Property.unresolved) inActive
  rw [← reduces.unresolved] at inMap
  obtain ⟨same, mem, equal⟩ := List.mem_map.mp inMap
  have samePlans : plan ∈ same.unresolved.hookPlans := by rw [equal]; exact inPlans
  obtain ⟨origin, found⟩ := reduces.settled.exists_origin mem samePlans
  have unresolved := Property.map_find?_of_unresolved plan.tag reduces.unresolved
  rw [found] at unresolved
  obtain ⟨target, foundTarget, -⟩ := Option.map_eq_some_iff.mp unresolved.symm
  exact ⟨target, foundTarget⟩

section LegacyOrigin

/-! ## Hooks around a method that was not an origin -/

variable {property target origin : Property} {plan : HookPlan}
  (found : entity.properties.find? (fun sibling => sibling.tag == plan.tag) = some origin)
  (legacy : origin.isLegacy = true)
  (foundActive : entity.activeProperties.find? (fun sibling => sibling.tag == plan.tag) =
    some target)

/-- The hook comes to be put around a method of the first active property. -/
theorem exists_planned_around (inActive : property ∈ entity.activeProperties)
    (inPlans : plan ∈ property.hookPlans) (foundActive : entity.activeProperties.find?
      (fun sibling => sibling.tag == plan.tag) = some target) :
    ∃ hook ∈ entity.activeProperties.flatMap fun property =>
        property.plannedHooks (reduced.siblings []),
      (hook.phase == plan.phase && hook.targets plan.method target.name) = true := by
  have planned : property.plannedHook? (reduced.siblings []) plan =
      some ⟨property.name, plan.method, target.name, plan.phase, plan.label⟩ := by
    rw [reduces.plannedHook?_eq, foundActive]
    rfl
  refine ⟨_, List.mem_flatMap.mpr ⟨property, inActive, List.mem_filterMap.mpr
    ⟨plan, inPlans, planned⟩⟩, ?_⟩
  simp [MethodHook.targets]

omit reduces in
include found legacy foundActive in
/-- Before, no built-in hook was put around a method of this property. -/
theorem not_planned_around (names : (entity.properties.map Property.name).Nodup) :
    ∀ hook ∈ entity.activeProperties.flatMap fun property =>
        property.plannedHooks (entity.siblings []),
      ¬ (hook.phase == plan.phase && hook.targets plan.method target.name) = true := by
  have active := mem_activeProperties_iff.mp (List.mem_of_find?_eq_some foundActive)
  have tagged : target.tag = plan.tag := by simpa using List.find?_some foundActive
  intro hook mem
  obtain ⟨other, -, inPlanned⟩ := List.mem_flatMap.mp mem
  obtain ⟨otherPlan, -, planned⟩ := List.mem_filterMap.mp inPlanned
  obtain ⟨first, foundFirst, rfl⟩ := Option.map_eq_some_iff.mp planned
  have firstTag : first.tag = otherPlan.tag := by simpa using List.find?_some foundFirst
  intro targets
  have named : first.name = target.name := by
    simp only [MethodHook.targets, Bool.and_eq_true, beq_iff_eq] at targets
    exact targets.2.2
  have same : first = target :=
    List.inj_on_of_nodup_map names (List.mem_of_find?_eq_some foundFirst) active.1 named
  -- Both plans are for one kind, so that the first property of the kind is active and legacy.
  rw [Siblings.first?, siblings, ← firstTag, same, tagged, found, Option.some.injEq] at foundFirst
  rw [← foundFirst, legacy] at active
  exact absurd active.2 (by decide)

end LegacyOrigin

/-- A hook around a method of a legacy property moves to a chain that it was not in before. -/
theorem hookChains_ne_of_legacyHooked (names : (entity.properties.map Property.name).Nodup)
    (settled : entity.Settled) (hooked : entity.LegacyHooked) :
    reduced.hookChains ≠ entity.hookChains := by
  obtain ⟨property, inActive, plan, inPlans, origin, found, legacy⟩ :=
    (legacyHooked_iff settled names).mp hooked
  obtain ⟨target, foundActive⟩ := reduces.exists_active_origin inActive inPlans
  have active := List.mem_of_find?_eq_some foundActive
  have tagged : target.tag = plan.tag := by simpa using List.find?_some foundActive
  have inTargets : (plan.method, target.name, false) ∈ entity.hookTargets := by
    have hasMethod := Property.method?_isSome_of_mem_hookPlans inPlans tagged
    obtain ⟨method, isMethod⟩ := Option.isSome_iff_exists.mp hasMethod
    exact mem_hookTargets_iff.mpr ⟨target, active, rfl, method, List.mem_of_find?_eq_some isMethod,
      by simpa using List.find?_some isMethod, nofun⟩
  intro same
  rw [hookChains_eq reduces.settled.finalized (reduces.names names),
    hookChains_eq settled.finalized names, reduces.hookTargets_eq, Except.ok.injEq,
    List.map_inj_left] at same
  have woven : reduced.chainAround plan.method target.name false =
      entity.chainAround plan.method target.name false := same _ inTargets
  have counts := countP_hooks_of_chainAround_eq woven plan.phase
  rw [reduces.flatMap_hooks_eq, settled.flatMap_hooks_eq, countP_flatMap_append,
    countP_flatMap_append] at counts
  have before := List.countP_eq_zero.mpr (not_planned_around found legacy foundActive names)
  have after := List.countP_pos_iff.mpr (reduces.exists_planned_around inActive inPlans foundActive)
  omega

/-- The deletion changes the chains exactly when an active property has a built-in hook around a
method of a legacy property. -/
theorem hookChains_eq_iff (names : (entity.properties.map Property.name).Nodup)
    (settled : entity.Settled) : reduced.hookChains = entity.hookChains ↔ ¬ entity.LegacyHooked :=
  ⟨fun same hooked => reduces.hookChains_ne_of_legacyHooked names settled hooked same,
    reduces.hookChains_eq_of_not_legacyHooked names settled⟩

end Reduces

end Entity

end EntitySurface
