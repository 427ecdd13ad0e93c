import EntitySurface.HookChain
import EntitySurface.Proofs.Entity.Active
import EntitySurface.Proofs.Entity.WellFormed

/-!
# Hook chains of finalized entities

The methods of the active properties of a finalized entity can all be woven, so that two entities
have the same chains exactly when the same hooks are put around each of these methods.
-/

namespace EntitySurface

/-- The methods of a kind have different names. -/
theorem PropertyKind.nodup_methods (kind : PropertyKind) :
    (kind.methods.map AccessMethod.name).Nodup := by
  cases kind <;> simp [methods]

theorem PropertyKind.method?_of_mem {kind : PropertyKind} {method : AccessMethod}
    (mem : method ∈ kind.methods) : kind.method? method.name = some method := by
  have isSome : (kind.method? method.name).isSome := List.find?_isSome.mpr ⟨method, mem, by simp⟩
  obtain ⟨found, foundEq⟩ := Option.isSome_iff_exists.mp isSome
  have named : found.name = method.name := by simpa using List.find?_some foundEq
  rw [foundEq,
    List.inj_on_of_nodup_map kind.nodup_methods (List.mem_of_find?_eq_some foundEq) mem named]

namespace Entity

variable {entity : Entity}

theorem mem_hookTargets_iff {method origin : String} {bulk : Bool} :
    (method, origin, bulk) ∈ entity.hookTargets ↔
      ∃ property ∈ entity.activeProperties, property.name = origin ∧
        ∃ found ∈ property.kind.methods, found.name = method ∧
          (bulk = true → found.hasBulk = true) := by
  simp only [hookTargets, List.mem_flatMap]
  apply exists_congr
  intro property
  apply and_congr_right
  intro _
  constructor
  · rintro ⟨found, inMethods, mem⟩
    rcases List.mem_cons.mp mem with same | massive
    · cases same
      exact ⟨rfl, found, inMethods, rfl, nofun⟩
    · split at massive
      · next hasBulk =>
        cases List.mem_singleton.mp massive
        exact ⟨rfl, found, inMethods, rfl, fun _ => hasBulk⟩
      · contradiction
  · rintro ⟨rfl, found, inMethods, rfl, hasBulk⟩
    refine ⟨found, inMethods, ?_⟩
    cases bulk with
    | false => exact List.mem_cons_self
    | true => simp [hasBulk rfl]

/-- A variant of a method of an active property is a target if the method has this variant. -/
theorem mem_hookTargets_of_method_iff (names : (entity.properties.map Property.name).Nodup)
    {property : Property} (inActive : property ∈ entity.activeProperties) {method : AccessMethod}
    (inMethods : method ∈ property.kind.methods) {bulk : Bool} :
    (method.name, property.name, bulk) ∈ entity.hookTargets ↔
      (bulk = true → method.hasBulk = true) := by
  rw [mem_hookTargets_iff]
  constructor
  · rintro ⟨other, otherActive, sameProperty, found, inFound, sameMethod, variant⟩
    obtain rfl : other = property := List.inj_on_of_nodup_map names
      (mem_activeProperties_iff.mp otherActive).1 (mem_activeProperties_iff.mp inActive).1
      sameProperty
    obtain rfl : found = method :=
      List.inj_on_of_nodup_map other.kind.nodup_methods inFound inMethods sameMethod
    exact variant
  · intro variant
    exact ⟨property, inActive, rfl, method, inMethods, rfl, variant⟩

/-- The targets are the variants of different methods of different properties. -/
theorem nodup_hookTargets (names : (entity.properties.map Property.name).Nodup) :
    entity.hookTargets.Nodup := by
  have active : (entity.activeProperties.map Property.name).Nodup :=
    names.sublist (List.filter_sublist.map _)
  have variant : ∀ (property : Property) (method : AccessMethod) (target : String × String × Bool),
      target ∈ (method.name, property.name, false) ::
        (if method.hasBulk then [(method.name, property.name, true)] else []) →
          target.1 = method.name ∧ target.2.1 = property.name := by
    intro property method target mem
    rcases List.mem_cons.mp mem with rfl | massive
    · exact ⟨rfl, rfl⟩
    · obtain rfl := List.mem_singleton.mp (List.mem_ite_nil_right.mp massive).2
      exact ⟨rfl, rfl⟩
  unfold hookTargets
  rw [List.nodup_flatMap]
  constructor
  · intro property _
    rw [List.nodup_flatMap]
    constructor
    · intro method _
      split <;> simp
    · refine (List.pairwise_map.mp property.kind.nodup_methods).imp fun apart target one other => ?_
      exact apart ((variant property _ target one).1.symm.trans (variant property _ target other).1)
  · refine (List.pairwise_map.mp active).imp fun apart target inFirst inSecond => ?_
    obtain ⟨first, -, one⟩ := List.mem_flatMap.mp inFirst
    obtain ⟨second, -, other⟩ := List.mem_flatMap.mp inSecond
    exact apart ((variant _ first target one).2.symm.trans (variant _ second target other).2)

/-- Chains around a method agree only if they hold as many hooks of each phase. -/
theorem countP_hooks_of_chainAround_eq {first second : Entity} {method origin : String}
    {bulk : Bool} (same : first.chainAround method origin bulk =
      second.chainAround method origin bulk) (phase : HookPhase) :
    (first.activeProperties.flatMap Property.hooks).countP
        (fun hook => hook.phase == phase && hook.targets method origin) =
      (second.activeProperties.flatMap Property.hooks).countP
        fun hook => hook.phase == phase && hook.targets method origin := by
  have phases : (first.hooksAround method origin).filter (fun hook => hook.phase == phase) =
      (second.hooksAround method origin).filter fun hook => hook.phase == phase := by
    rcases phase with (_ | _) | _
    · exact congrArg HookChain.pre same
    · exact congrArg HookChain.preliminary same
    · exact congrArg HookChain.post same
  have lengths := congrArg List.length phases
  simpa only [hooksAround, List.filter_filter, ← List.countP_eq_length_filter] using lengths

/-! ## Where a hook lands -/

/-- A chain holds a hook that is put around its method as often as the active properties have it,
and other hooks not at all. -/
theorem count_hooks_chainAround (entity : Entity) (method origin : String) (bulk : Bool)
    (hook : MethodHook) : (entity.chainAround method origin bulk).hooks.count hook =
      if hook.targets method origin then
        (entity.activeProperties.flatMap Property.hooks).count hook
      else 0 := by
  have count_filter_eq : ∀ (test : MethodHook → Bool) (list : List MethodHook),
      (list.filter test).count hook = if test hook then list.count hook else 0 := by
    intro test list
    split
    · next passes => exact List.count_filter passes
    · next fails => exact List.count_eq_zero.mpr fun mem => fails (List.mem_filter.mp mem).2
  simp only [HookChain.hooks, chainAround, List.count_append, hooksAround, count_filter_eq]
  -- every hook is of one of the three phases
  rcases hook.phase with (_ | _) | _ <;> simp

theorem mem_hooks_chainAround_iff {method origin : String} {bulk : Bool} {hook : MethodHook} :
    hook ∈ (entity.chainAround method origin bulk).hooks ↔
      hook.targets method origin = true ∧
        ∃ property ∈ entity.activeProperties, hook ∈ property.hooks := by
  rw [← List.count_pos_iff, count_hooks_chainAround, ← List.mem_flatMap, ← List.count_pos_iff]
  split <;> simp_all

/-- The chain of a target. -/
def chainFor (entity : Entity) (target : String × String × Bool) : HookChain :=
  entity.chainAround target.1 target.2.1 target.2.2

/-- Of the chains of one variant, a hook of an active property is held by the one around its method,
as often as the active properties have it, and by no other. -/
theorem map_count_filter_chains_eq (names : (entity.properties.map Property.name).Nodup)
    {hook : MethodHook} (active : ∃ property ∈ entity.activeProperties, hook ∈ property.hooks)
    (bulk : Bool) :
    (((entity.hookTargets.map entity.chainFor).filter fun chain =>
        chain.bulk == bulk && chain.hooks.contains hook).map fun chain => chain.hooks.count hook) =
      if (hook.method, hook.origin, bulk) ∈ entity.hookTargets then
        [(entity.activeProperties.flatMap Property.hooks).count hook]
      else [] := by
  have only : ∀ target ∈ entity.hookTargets, ((fun chain : HookChain =>
      chain.bulk == bulk && chain.hooks.contains hook) ∘ entity.chainFor) target =
        (target == (hook.method, hook.origin, bulk)) := by
    rintro ⟨method, origin, variant⟩ -
    have sameBulk : (entity.chainFor (method, origin, variant)).bulk = variant := rfl
    rw [Bool.eq_iff_iff, Function.comp_apply, sameBulk]
    simp only [chainFor, Bool.and_eq_true, beq_iff_eq, List.contains_iff_mem,
      mem_hooks_chainAround_iff, MethodHook.targets, active, and_true, Prod.mk.injEq]
    constructor
    · rintro ⟨rfl, rfl, rfl⟩
      exact ⟨rfl, rfl, rfl⟩
    · rintro ⟨rfl, rfl, rfl⟩
      exact ⟨rfl, rfl, rfl⟩
  rw [List.filter_map, List.filter_congr only, List.filter_beq]
  split
  · next mem =>
    rw [List.count_eq_one_of_mem (nodup_hookTargets names) mem]
    simp [chainFor, count_hooks_chainAround, MethodHook.targets]
  · next absent =>
    rw [List.count_eq_zero.mpr absent]
    rfl

section Finalized

variable (finalized : entity.finalized = true)
  (names : (entity.properties.map Property.name).Nodup)
include finalized names

theorem hookChain_eq {method origin : String} {bulk : Bool}
    (mem : (method, origin, bulk) ∈ entity.hookTargets) :
    entity.hookChain method origin bulk = .ok (entity.chainAround method origin bulk) := by
  obtain ⟨property, inActive, rfl, found, inMethods, rfl, hasBulk⟩ := mem_hookTargets_iff.mp mem
  obtain ⟨stored, active⟩ := mem_activeProperties_iff.mp inActive
  have named : entity.activeProperties.find? (fun other => other.name == property.name) =
      some property :=
    find?_filter_of_find? (property?_eq_some_of_mem names stored) (by simp [active])
  have variant : (!bulk || found.hasBulk) = true := by
    cases bulk with
    | false => rfl
    | true => simp [hasBulk rfl]
  simp [hookChain, finalized, named, PropertyKind.method?_of_mem inMethods, variant]

/-- Weaving all methods succeeds. -/
theorem hookChains_eq : entity.hookChains = .ok (entity.hookTargets.map entity.chainFor) := by
  have woven : ∀ targets : List (String × String × Bool), targets ⊆ entity.hookTargets →
      (targets.mapM fun target => entity.hookChain target.1 target.2.1 target.2.2) =
        .ok (targets.map entity.chainFor) := by
    intro targets subset
    induction targets with
    | nil => rfl
    | cons target rest ih =>
        obtain ⟨mem, inRest⟩ := List.cons_subset.mp subset
        rw [List.mapM_cons, hookChain_eq finalized names mem, ih inRest]
        rfl
  exact woven _ (List.Subset.refl _)

end Finalized

end Entity

end EntitySurface
