import EntitySurface.Demo
import EntitySurface.Proofs.Entity.HookChains
import EntitySurface.Proofs.Schema.Finalized

/-!
# Weaving hooks

Finalization checks hooks against all stored properties, and weaving looks methods up among the
active ones only. Between the two no hook is lost or woven twice: the hooks of active properties
around methods of active properties all land in one chain for each variant of the method, and no
other hook lands anywhere.
-/

namespace EntitySurface.Schema.Reachable

variable {schema : Schema} {entity : Entity}

/-- Weaving the methods of an entity of a finalized schema succeeds, with one chain for each method
of each active property and a second one where the method has a bulk variant. A hook of an active
property whose origin is active is held, as often as the active properties have it, by one single
chain and by one bulk chain if the method has a bulk variant, and by no other chains. A chain holds
hooks of active properties around its own method only, and so neither hooks that legacy properties
declare nor hooks around methods of legacy properties. -/
theorem hooks_woven_once (reached : schema.Reachable) (finalized : schema.phase = .finalized)
    (mem : entity ∈ schema.entities) :
    ∃ chains, entity.hookChains = .ok chains ∧
      (chains.map fun chain => (chain.origin, chain.method, chain.bulk)) =
        (entity.activeProperties.flatMap fun property => property.kind.methods.flatMap fun method =>
          (property.name, method.name, false) ::
            if method.hasBulk then [(property.name, method.name, true)] else []) ∧
      (∀ property ∈ entity.activeProperties, ∀ hook ∈ property.hooks,
        ∀ origin ∈ entity.activeProperties, origin.name = hook.origin →
          ∃ method ∈ origin.kind.methods, method.name = hook.method ∧ ∀ bulk,
            ((chains.filter fun chain => chain.bulk == bulk && chain.hooks.contains hook).map
                fun chain => chain.hooks.count hook) =
              if bulk && !method.hasBulk then []
              else [(entity.activeProperties.flatMap Property.hooks).count hook]) ∧
      (∀ chain ∈ chains, ∀ hook ∈ chain.hooks,
        hook.origin = chain.origin ∧ hook.method = chain.method ∧
        chain.hooks.count hook = (entity.activeProperties.flatMap Property.hooks).count hook ∧
        ∀ legacy ∈ entity.properties, legacy.isLegacy = true → hook.origin ≠ legacy.name) := by
  have settled := reached.settled finalized entity mem
  have names := (reached.wellFormed.entities entity mem).propertyNames
  refine ⟨_, Entity.hookChains_eq settled.finalized names, ?_, ?_, ?_⟩
  · simp only [Entity.hookTargets, List.map_map, List.map_flatMap]
    apply List.flatMap_congr
    intro property _
    apply List.flatMap_congr
    intro method _
    cases method.hasBulk <;> rfl
  · intro property inActive hook inHooks origin originActive named
    obtain ⟨stored, -⟩ := Entity.mem_activeProperties_iff.mp inActive
    obtain ⟨originStored, -⟩ := Entity.mem_activeProperties_iff.mp originActive
    obtain ⟨target, targetStored, targetNamed, method, found⟩ :=
      reached.exists_hookOrigin finalized mem stored inHooks
    obtain rfl : origin = target :=
      List.inj_on_of_nodup_map names originStored targetStored (named.trans targetNamed.symm)
    have inMethods := List.mem_of_find?_eq_some found
    have methodNamed : method.name = hook.method := by simpa using List.find?_some found
    refine ⟨method, inMethods, methodNamed, fun bulk => ?_⟩
    have variant_iff : (hook.method, hook.origin, bulk) ∈ entity.hookTargets ↔
        (bulk = true → method.hasBulk = true) := by
      rw [← methodNamed, ← named]
      exact Entity.mem_hookTargets_of_method_iff names originActive inMethods
    rw [Entity.map_count_filter_chains_eq names ⟨property, inActive, inHooks⟩ bulk]
    simp only [variant_iff]
    cases bulk <;> cases method.hasBulk <;> rfl
  · intro chain inChains hook inHooks
    obtain ⟨⟨method, origin, bulk⟩, target, rfl⟩ := List.mem_map.mp inChains
    obtain ⟨targets, -⟩ := Entity.mem_hooks_chainAround_iff.mp inHooks
    have around : hook.method = method ∧ hook.origin = origin := by
      simpa [MethodHook.targets] using targets
    refine ⟨around.2, around.1, ?_, ?_⟩
    · rw [Entity.chainFor, Entity.count_hooks_chainAround, if_pos targets]
    · intro legacy stored isLegacy same
      obtain ⟨property, inActive, named, -⟩ := Entity.mem_hookTargets_iff.mp target
      obtain ⟨propertyStored, active⟩ := Entity.mem_activeProperties_iff.mp inActive
      obtain rfl : property = legacy := List.inj_on_of_nodup_map names propertyStored stored
        (named.trans (around.2.symm.trans same))
      rw [isLegacy] at active
      contradiction

/-- Customers with a hook that a legacy property declares. -/
def hookedCustomers : List Command :=
  Demo.Sales.customers ++
    [.hook Demo.Sales.customer "LETTER" "insert" "STOREDOBJECT" .post, .finish]

/-- Insertion of customers is woven twice, with the built-in hooks of the numbering and of the log
of updates, and without the hook of the legacy letter. -/
theorem hooks_woven_once_customers :
    let schema := (({ name := "sales" } : Schema).executeAll hookedCustomers).1
    schema.phase = .finalized ∧
    (schema.entities.map fun entity => entity.hookChains.map fun chains =>
      (chains.filter fun chain => chain.origin == "STOREDOBJECT").map fun chain =>
        (chain.title, chain.order)) =
      [.ok [("STOREDOBJECT.insert", ["NUMBERED", "LASTUPDATE"]),
        ("STOREDOBJECT.insert[]", ["NUMBERED", "LASTUPDATE"])]] ∧
    ∀ entity ∈ schema.entities, ∃ chains, entity.hookChains = .ok chains ∧
      ∀ chain ∈ chains, ∀ hook ∈ chain.hooks,
        chain.hooks.count hook = (entity.activeProperties.flatMap Property.hooks).count hook := by
  have finalized : (({ name := "sales" } : Schema).executeAll hookedCustomers).1.phase =
      .finalized := by decide +kernel
  refine ⟨finalized, by decide +kernel, fun entity mem => ?_⟩
  obtain ⟨chains, woven, -, -, held⟩ :=
    ((Reachable.start "sales").executeAll hookedCustomers).hooks_woven_once finalized mem
  exact ⟨chains, woven, fun chain inChains hook inHooks => (held chain inChains hook inHooks).2.2.1⟩

end EntitySurface.Schema.Reachable
