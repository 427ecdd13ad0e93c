import EntitySurface.Proofs.Entity.WellFormed
import EntitySurface.Proofs.Property.Settling

/-!
# Finalization of entities

Finalization settles the properties and marks the entity as finalized when nothing fails. It keeps
everything else, and it succeeds exactly when the properties can be settled, every hook has a target
and every alias has a column.
-/

namespace EntitySurface.Entity

variable (entity : Entity)

/-- The outcome of settling all properties of an entity. -/
def settling : List Property × Option Fault :=
  Property.settleFrom entity.key entity.properties [] entity.properties

theorem map_unresolved_settling :
    entity.settling.1.map Property.unresolved = entity.properties.map Property.unresolved :=
  Property.map_unresolved_settleFrom entity.key entity.properties [] entity.properties

theorem map_identity_settling :
    entity.settling.1.map Property.identity = entity.properties.map Property.identity :=
  Property.map_identity_settleFrom entity.key entity.properties [] entity.properties

theorem map_declaredHooks_settling :
    entity.settling.1.map Property.declaredHooks =
      entity.properties.map Property.declaredHooks :=
  Property.map_eq_map_of_unresolved (fun _ => rfl)
    (Property.map_unresolved_settleFrom entity.key entity.properties [] entity.properties)

/-- Whatever comes of finalization, only the settings and the mark change. -/
theorem exists_finalize_eq :
    ∃ finalized, entity.finalize.1 =
      { entity with properties := entity.settling.1, finalized } := by
  unfold finalize settling
  rcases Property.settleFrom entity.key entity.properties [] entity.properties with
    ⟨properties, _ | fault⟩
  · dsimp only
    split
    · exact ⟨entity.finalized, rfl⟩
    · split
      · exact ⟨entity.finalized, rfl⟩
      · exact ⟨true, rfl⟩
  · exact ⟨entity.finalized, rfl⟩

theorem finalize_key : entity.finalize.1.key = entity.key := by
  obtain ⟨finalized, same⟩ := entity.exists_finalize_eq
  rw [same]

variable {entity}

/-- Finalization keeps the entity well-formed also when it fails. -/
theorem WellFormed.finalize (wellFormed : entity.WellFormed) : entity.finalize.1.WellFormed := by
  obtain ⟨finalized, same⟩ := entity.exists_finalize_eq
  have settled : { entity with properties := entity.settling.1 }.WellFormed :=
    wellFormed.of_identities entity.map_identity_settling
  rw [same]
  exact { settled with }

/-! ## Success -/

theorem hasMethod_iff (names : (entity.properties.map Property.name).Nodup)
    {method origin : String} :
    entity.hasMethod method origin = true ↔
      ∃ property ∈ entity.properties, property.name = origin ∧
        (property.kind.method? method).isSome := by
  rw [hasMethod, Option.any_eq_true]
  constructor
  · rintro ⟨property, found, declared⟩
    obtain ⟨mem, named⟩ := mem_of_property?_eq_some found
    exact ⟨property, mem, named, declared⟩
  · rintro ⟨property, mem, rfl, declared⟩
    exact ⟨property, property?_eq_some_of_mem names mem, declared⟩

/-- Which methods an entity has depends on the identities of its properties only. -/
theorem hasMethod_of_identities {properties : List Property}
    (same : properties.map Property.identity = entity.properties.map Property.identity)
    (method origin : String) :
    { entity with properties }.hasMethod method origin = entity.hasMethod method origin := by
  have stored := map_identity_property?_of_identities same origin
  unfold hasMethod
  cases first : ({ entity with properties } : Entity).property? origin with
  | none =>
      rw [first] at stored
      rw [Option.map_eq_none_iff.mp stored.symm]
  | some property =>
      rw [first] at stored
      obtain ⟨other, second, equal⟩ := Option.map_eq_some_iff.mp stored.symm
      simp only [Property.identity, Prod.mk.injEq] at equal
      simp [second, equal]

theorem danglingHook?_eq_none_iff :
    entity.danglingHook? = none ↔
      ∀ property ∈ entity.properties, ∀ hook ∈ property.hooks,
        entity.hasMethod hook.method hook.origin = true := by
  simp only [danglingHook?, List.find?_eq_none, List.mem_flatMap, Bool.not_eq_true,
    Bool.not_eq_false']
  constructor
  · exact fun sound property mem hook inHooks => sound hook ⟨property, mem, inHooks⟩
  · rintro sound hook ⟨property, mem, inHooks⟩
    exact sound property mem hook inHooks

theorem danglingAlias?_eq_none_iff :
    entity.danglingAlias? = none ↔
      ∀ header ∈ entity.loaderAliases, header.column ∈ entity.columns := by
  simp [danglingAlias?, hasColumn_iff]

/-- The first fault of finalization: a missing sibling, a dangling hook or a dangling alias. -/
theorem finalize_fault (entity : Entity) :
    entity.finalize.2 =
      let settled := { entity with properties := entity.settling.1 }
      match entity.settling.2, settled.danglingHook?, settled.danglingAlias? with
      | some fault, _, _ => some fault
      | none, some hook, _ => some (.unknownHookTarget entity.key hook.method hook.origin)
      | none, none, some header => some (.fieldNotFound entity.key header.column)
      | none, none, none => none := by
  unfold finalize settling
  rcases Property.settleFrom entity.key entity.properties [] entity.properties with
    ⟨properties, _ | fault⟩
  · dsimp only
    cases ({ entity with properties } : Entity).danglingHook? with
    | some hook => rfl
    | none => cases ({ entity with properties } : Entity).danglingAlias? <;> rfl
  · rfl

theorem finalize_eq_none_iff :
    entity.finalize.2 = none ↔
      entity.settling.2 = none ∧
        { entity with properties := entity.settling.1 }.danglingHook? = none ∧
        { entity with properties := entity.settling.1 }.danglingAlias? = none := by
  rw [finalize_fault]
  dsimp only
  split <;> simp_all

/-- A finalization without a fault settles all properties and marks the entity. -/
theorem finalize_eq_of_none (succeeded : entity.finalize.2 = none) :
    entity.finalize =
      ({ entity with properties := entity.settling.1, finalized := true }, none) := by
  obtain ⟨settled, hooks, aliases⟩ := finalize_eq_none_iff.mp succeeded
  unfold finalize
  unfold settling at settled hooks aliases ⊢
  revert settled hooks aliases
  rcases Property.settleFrom entity.key entity.properties [] entity.properties with
    ⟨properties, fault?⟩
  rintro rfl hooks aliases
  simp only [hooks, aliases]

/-- After a finalization without a fault, every hook has a target. -/
theorem hasMethod_of_finalize {final : Entity} (done : entity.finalize = (final, none)) :
    ∀ property ∈ final.properties, ∀ hook ∈ property.hooks,
      final.hasMethod hook.method hook.origin = true := by
  have succeeded : entity.finalize.2 = none := congrArg Prod.snd done
  have sound := danglingHook?_eq_none_iff.mp (finalize_eq_none_iff.mp succeeded).2.1
  rw [finalize_eq_of_none succeeded] at done
  cases done
  exact sound

/-- After a finalization without a fault, every alias has a column. -/
theorem column_of_finalize {final : Entity} (done : entity.finalize = (final, none)) :
    ∀ header ∈ final.loaderAliases, header.column ∈ final.columns := by
  have succeeded : entity.finalize.2 = none := congrArg Prod.snd done
  have sound := danglingAlias?_eq_none_iff.mp (finalize_eq_none_iff.mp succeeded).2.2
  rw [finalize_eq_of_none succeeded] at done
  cases done
  exact sound

/-- What an entity needs to be finalized, apart from what its hooks and aliases need. A property
that logs updates hooks into the update of the identity beside it, which is no precondition of
its kind. -/
def Complete (entity : Entity) : Prop :=
  ∀ property ∈ entity.properties,
    (∀ tag ∈ property.tag.preconditions, ∃ sibling ∈ entity.properties, sibling.tag = tag) ∧
      (property.tag = .lastUpdate → ∃ sibling ∈ entity.properties, sibling.tag = .uniqueIdentified)

/-- The origins of all other built-in hooks follow from the preconditions of the properties. -/
theorem Complete.exists_origin (complete : entity.Complete) {property : Property}
    (mem : property ∈ entity.properties) {plan : HookPlan} (planned : plan ∈ property.hookPlans) :
    ∃ sibling ∈ entity.properties, sibling.tag = plan.tag := by
  have present := (complete property mem).1
  rcases Property.mem_hookPlans planned with ⟨-, tag, direct | viaIdentity⟩ |
    ⟨-, tag, direct | logged⟩ | ⟨-, tag, direct⟩ | ⟨-, tag, direct⟩
  · exact tag ▸ present _ direct
  · obtain ⟨identity, inProperties, tagged⟩ := present _ viaIdentity
    rw [tag]
    exact (complete identity inProperties).1 .storedObject
      (by simp [tagged, PropertyTag.preconditions])
  · exact tag ▸ present _ direct
  · exact tag ▸ (complete property mem).2 logged
  · exact tag ▸ present _ direct
  · exact tag ▸ present _ direct

theorem settling_eq_none_iff : entity.settling.2 = none ↔ entity.Complete := by
  rw [settling, Property.settleFrom_eq_none_iff]
  constructor
  · intro settled property mem
    constructor
    · exact (settled property mem).1
    · intro logged
      have kind : property.kind = .lastUpdate := by
        unfold Property.tag at logged
        generalize property.kind = kind at logged
        cases kind <;> first | rfl | contradiction
      exact (settled property mem).2 ⟨"update", .uniqueIdentified, .pre false,
        "stamp update user and time"⟩ (by simp [Property.hookPlans, kind])
  · intro complete property mem
    exact ⟨(complete property mem).1, fun plan planned => complete.exists_origin mem planned⟩

/-- Every declared hook is put around a method of a stored property. -/
def HooksResolve (entity : Entity) : Prop :=
  ∀ property ∈ entity.properties, ∀ hook ∈ property.declaredHooks,
    ∃ origin ∈ entity.properties, origin.name = hook.origin ∧
      (origin.kind.method? hook.method).isSome

namespace WellFormed

variable (wellFormed : entity.WellFormed)
include wellFormed

/-- Built-in hooks never dangle. -/
theorem hasMethod_of_mem_hooks (settled : entity.settling.2 = none) {property : Property}
    (mem : property ∈ entity.settling.1) {hook : MethodHook} (inHooks : hook ∈ property.hooks) :
    hook ∈ property.declaredHooks ∨ entity.hasMethod hook.method hook.origin = true := by
  rcases Property.mem_settleFrom settled mem with nowhere | ⟨original, stored, earlier, settings,
    outcome, rfl⟩
  · contradiction
  · obtain ⟨-, -, rfl⟩ := Property.settle_eq_ok_iff.mp outcome
    rcases List.mem_append.mp inHooks with builtIn | declared
    · obtain ⟨-, origin, inProperties, named, declared⟩ := Property.mem_plannedHooks builtIn
      exact Or.inr ((hasMethod_iff wellFormed.propertyNames).mpr
        ⟨origin, inProperties, named, declared⟩)
    · exact Or.inl declared

theorem danglingHook?_eq_none_iff (settled : entity.settling.2 = none) :
    { entity with properties := entity.settling.1 }.danglingHook? = none ↔
      entity.HooksResolve := by
  rw [Entity.danglingHook?_eq_none_iff]
  simp only [hasMethod_of_identities entity.map_identity_settling]
  constructor
  · intro sound property mem hook declared
    obtain ⟨other, otherMem, same⟩ := List.mem_map.mp
      (entity.map_declaredHooks_settling ▸ List.mem_map_of_mem mem)
    have inHooks : hook ∈ other.hooks := List.mem_append_right _ (same ▸ declared)
    exact (hasMethod_iff wellFormed.propertyNames).mp (sound other otherMem hook inHooks)
  · intro resolve property mem hook inHooks
    rcases wellFormed.hasMethod_of_mem_hooks settled mem inHooks with declared | found
    · obtain ⟨other, otherMem, same⟩ := List.mem_map.mp
        (entity.map_declaredHooks_settling ▸ List.mem_map_of_mem mem)
      exact (hasMethod_iff wellFormed.propertyNames).mpr
        (resolve other otherMem hook (same ▸ declared))
    · exact found

/-- Finalization succeeds exactly when every property has the siblings that it needs, every declared
hook has a target and every alias has a column. -/
theorem finalize_eq_none_iff :
    entity.finalize.2 = none ↔
      entity.Complete ∧ entity.HooksResolve ∧
        ∀ header ∈ entity.loaderAliases, header.column ∈ entity.columns := by
  rw [Entity.finalize_eq_none_iff, settling_eq_none_iff]
  apply and_congr_right
  intro complete
  rw [wellFormed.danglingHook?_eq_none_iff (settling_eq_none_iff.mpr complete),
    danglingAlias?_eq_none_iff, columns_eq_of_identities entity.map_identity_settling]

/-- A hook that finalization refuses is a declared one. -/
theorem exists_declared_of_unknownHookTarget {key : EntityKey} {method origin : String}
    (refused : entity.finalize.2 = some (.unknownHookTarget key method origin)) :
    key = entity.key ∧ ∃ property ∈ entity.properties, ∃ hook ∈ property.declaredHooks,
      hook.method = method ∧ hook.origin = origin ∧
        ¬ ∃ target ∈ entity.properties, target.name = origin ∧
          (target.kind.method? method).isSome := by
  rw [finalize_fault] at refused
  dsimp only at refused
  split at refused
  · rename_i fault failed
    obtain ⟨property, -, required, missing⟩ := Property.exists_of_settleFrom_eq_some failed
    subst missing
    cases refused
  · rename_i hook settled dangling
    cases refused
    obtain ⟨property, mem, inHooks⟩ := List.mem_flatMap.mp (List.mem_of_find?_eq_some dangling)
    have lost : ¬ entity.hasMethod hook.method hook.origin = true := by
      simpa [hasMethod_of_identities entity.map_identity_settling] using List.find?_some dangling
    rcases wellFormed.hasMethod_of_mem_hooks settled mem inHooks with declared | found
    · obtain ⟨other, otherMem, same⟩ := List.mem_map.mp
        (entity.map_declaredHooks_settling ▸ List.mem_map_of_mem mem)
      refine ⟨rfl, other, otherMem, hook, same ▸ declared, rfl, rfl, ?_⟩
      rwa [hasMethod_iff wellFormed.propertyNames] at lost
    · exact absurd found lost
  · cases refused
  · cases refused

end WellFormed

end EntitySurface.Entity
