import EntitySurface.Proofs.Property.HookPlan

/-!
# Settling properties

Settling a property reads the settings of the siblings settled before it and of no others. Settling
a list of properties gives each of them settings and leaves everything else about them as it was.
-/

namespace EntitySurface

/-! ## Settings of siblings do not matter -/

namespace Siblings

/-- The siblings without the settings of `all`. -/
def bare (siblings : Siblings) : Siblings :=
  { siblings with all := siblings.all.map Property.unresolved }

variable (siblings : Siblings)

theorem has_bare (tag : PropertyTag) : siblings.bare.has tag = siblings.has tag := by
  simp only [bare, has, List.any_map]
  rfl

theorem first?_bare (tag : PropertyTag) :
    siblings.bare.first? tag = (siblings.first? tag).map Property.unresolved := by
  simp only [bare, first?, List.find?_map]
  rfl

theorem allOf_bare (tag : PropertyTag) :
    siblings.bare.allOf tag = (siblings.allOf tag).map Property.unresolved := by
  simp only [bare, allOf, List.filter_map]
  rfl

end Siblings

namespace Property

variable (property : Property) (siblings : Siblings)

theorem missingPrecondition?_bare :
    property.missingPrecondition? siblings.bare = property.missingPrecondition? siblings := by
  simp only [missingPrecondition?, Siblings.has_bare]

theorem builtInHook_bare :
    property.builtInHook siblings.bare = property.builtInHook siblings := by
  funext method tag phase label
  simp only [builtInHook, Siblings.originName, Siblings.first?_bare]
  cases siblings.first? tag <;> rfl

theorem insertArguments_bare : insertArguments siblings.bare = insertArguments siblings := by
  simp only [insertArguments, Siblings.first?_bare, Siblings.allOf_bare, List.filterMap_map]
  cases siblings.first? .lifecycle <;> rfl

theorem numberingScope?_bare : numberingScope? siblings.bare = numberingScope? siblings := by
  simp only [numberingScope?, Siblings.allOf_bare, List.findSome?_map]
  rfl

/-- Settling reads the settings of the siblings settled before and of no others. -/
theorem settle_bare : property.settle siblings.bare = property.settle siblings := by
  unfold settle
  simp only [missingPrecondition?_bare, builtInHook_bare, insertArguments_bare,
    numberingScope?_bare]
  rfl

theorem settle_congr {property other : Property} {entity : EntityKey}
    {first second earlier : List Property} (same : property.unresolved = other.unresolved)
    (all : first.map unresolved = second.map unresolved) :
    property.settle { entity, all := first, earlier } =
      other.settle { entity, all := second, earlier } := by
  rw [← settle_bare property, ← settle_bare other]
  simp only [Siblings.bare, all]
  show property.unresolved.settle _ = other.unresolved.settle _
  rw [same]

/-! ## Settling a list of properties -/


/-- The settings are all that settling changes. -/
theorem map_unresolved_settleFrom (entity : EntityKey) (all settled rest : List Property) :
    (settleFrom entity all settled rest).1.map unresolved = (settled ++ rest).map unresolved := by
  induction rest generalizing settled with
  | nil => simp [settleFrom]
  | cons property rest ih =>
      rw [settleFrom]
      cases property.settle { entity, all, earlier := settled } with
      | error fault => rfl
      | ok settings => simp [ih, unresolved]

theorem map_eq_map_of_unresolved {α : Type} {read : Property → α}
    (indifferent : ∀ property, read property.unresolved = read property)
    {first second : List Property} (same : first.map unresolved = second.map unresolved) :
    first.map read = second.map read := by
  have mapped := congrArg (List.map read) same
  have drop : read ∘ unresolved = read := funext indifferent
  rwa [List.map_map, List.map_map, drop] at mapped

/-- The first properties of a kind in both lists agree apart from their settings. -/
theorem map_find?_of_unresolved (tag : PropertyTag) {first second : List Property}
    (same : first.map unresolved = second.map unresolved) :
    (first.find? fun property => property.tag == tag).map unresolved =
      (second.find? fun property => property.tag == tag).map unresolved := by
  have found := congrArg (List.find? fun property : Property => property.tag == tag) same
  rwa [List.find?_map, List.find?_map] at found

theorem map_identity_settleFrom (entity : EntityKey) (all settled rest : List Property) :
    (settleFrom entity all settled rest).1.map identity = (settled ++ rest).map identity :=
  map_eq_map_of_unresolved (fun _ => rfl) (map_unresolved_settleFrom entity all settled rest)

section Lists

variable {entity : EntityKey} {all settled rest : List Property}

/-- All properties can be settled exactly when the siblings that they need are there. -/
theorem settleFrom_eq_none_iff :
    (settleFrom entity all settled rest).2 = none ↔
      ∀ property ∈ rest,
        (∀ tag ∈ property.tag.preconditions, ∃ sibling ∈ all, sibling.tag = tag) ∧
          ∀ plan ∈ property.hookPlans, ∃ sibling ∈ all, sibling.tag = plan.tag := by
  induction rest generalizing settled with
  | nil => simp [settleFrom]
  | cons property rest ih =>
      rw [settleFrom, List.forall_mem_cons]
      cases outcome : property.settle { entity, all, earlier := settled } with
      | ok settings =>
          obtain ⟨present, origins, -⟩ := settle_eq_ok_iff.mp outcome
          simp only [Siblings.has_iff] at present origins
          rw [ih]
          exact (and_iff_right ⟨present, origins⟩).symm
      | error fault =>
          simp only [reduceCtorEq, false_iff, not_and]
          rintro ⟨present, origins⟩
          have succeeded : property.settle { entity, all, earlier := settled } = .ok _ :=
            settle_eq_ok_iff.mpr ⟨fun tag mem => Siblings.has_iff.mpr (present tag mem),
              fun plan mem => Siblings.has_iff.mpr (origins plan mem), rfl⟩
          rw [outcome] at succeeded
          contradiction

theorem exists_of_settleFrom_eq_some {fault : Fault}
    (failed : (settleFrom entity all settled rest).2 = some fault) :
    ∃ property ∈ rest, ∃ required,
      fault = .missingPrecondition entity property.name (.sibling required) := by
  induction rest generalizing settled with
  | nil => simp [settleFrom] at failed
  | cons property rest ih =>
      rw [settleFrom] at failed
      cases outcome : property.settle { entity, all, earlier := settled } with
      | ok settings =>
          rw [outcome] at failed
          obtain ⟨other, mem, cause⟩ := ih failed
          exact ⟨other, List.mem_cons_of_mem _ mem, cause⟩
      | error cause =>
          rw [outcome] at failed
          cases failed
          exact ⟨property, List.mem_cons_self, exists_of_settle_eq_error outcome⟩

/-- When nothing fails, every property has the settings that it gets after those before it. -/
theorem mem_settleFrom (succeeded : (settleFrom entity all settled rest).2 = none)
    {property : Property} (mem : property ∈ (settleFrom entity all settled rest).1) :
    property ∈ settled ∨ ∃ original ∈ rest, ∃ earlier settings,
      original.settle { entity, all, earlier } = .ok settings ∧
        property = { original with resolved := some settings } := by
  induction rest generalizing settled with
  | nil => exact Or.inl mem
  | cons first rest ih =>
      rw [settleFrom] at succeeded mem
      cases outcome : first.settle { entity, all, earlier := settled } with
      | error fault =>
          rw [outcome] at succeeded
          contradiction
      | ok settings =>
          rw [outcome] at succeeded mem
          rcases ih succeeded mem with inSettled | ⟨original, inRest, found⟩
          · rcases List.mem_append.mp inSettled with old | new
            · exact Or.inl old
            · exact Or.inr ⟨first, List.mem_cons_self, settled, settings, outcome,
                List.mem_singleton.mp new⟩
          · exact Or.inr ⟨original, List.mem_cons_of_mem _ inRest, found⟩

/-- When nothing fails, the settings of a property are those that it gets after the properties
before it. -/
theorem settleFrom_trace {final : List Property}
    (outcome : settleFrom entity all settled rest = (final, none)) :
    ∃ tail, final = settled ++ tail ∧ tail.map unresolved = rest.map unresolved ∧
      ∀ earlier property later, tail = earlier ++ property :: later →
        ∃ settings, property.settle { entity, all, earlier := settled ++ earlier } = .ok settings ∧
          property.resolved = some settings := by
  induction rest generalizing settled with
  | nil =>
      cases outcome
      exact ⟨[], by simp, rfl, by simp⟩
  | cons first rest ih =>
      rw [settleFrom] at outcome
      cases found : first.settle { entity, all, earlier := settled } with
      | error fault =>
          rw [found] at outcome
          cases outcome
      | ok settings =>
          rw [found] at outcome
          obtain ⟨tail, rfl, same, traced⟩ := ih outcome
          refine ⟨{ first with resolved := some settings } :: tail, by simp,
            by simp [same, unresolved], ?_⟩
          intro earlier property later split
          cases earlier with
          | nil =>
              obtain ⟨rfl, rfl⟩ := List.cons.inj split
              rw [List.append_nil]
              exact ⟨settings, found, rfl⟩
          | cons head earlier =>
              obtain ⟨rfl, inTail⟩ := List.cons.inj split
              simpa using traced earlier property later inTail

end Lists

end Property

end EntitySurface
