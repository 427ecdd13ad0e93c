import EntitySurface.Proofs.Entity.Active
import EntitySurface.Proofs.Entity.Settled
import EntitySurface.Proofs.Entity.WellFormed

/-!
# What creation takes

Insertion gains its arguments from the siblings of the stored object, whose positions do not matter.
An entity stores at most one lifecycle, so this is the state of the active lifecycle, if there is
one, and then the parent of each active parent link.
-/

namespace EntitySurface

namespace Property

/-- The state that a lifecycle brings to creation. -/
def stateArgument? (property : Property) : Option Argument :=
  match property.kind with
  | .lifecycle category => some (valueArgument "state" (.choice category false))
  | _ => none

/-- The parent that a parent link brings to creation, named after the link. -/
def parentObject? (property : Property) : Option Argument :=
  match property.kind with
  | .linkedToParent parent =>
      some { name := Text.lowercase property.name ++ "_id", kind := .object parent }
  | _ => none

variable {property : Property} {argument : Argument}

theorem stateArgument?_eq_none (other : property.tag ≠ .lifecycle) :
    property.stateArgument? = none := by
  unfold stateArgument?
  unfold tag at other
  cases kind : property.kind <;> simp_all [PropertyKind.tag]

theorem parentObject?_eq_none (other : property.tag ≠ .linkedToParent) :
    property.parentObject? = none := by
  unfold parentObject?
  unfold tag at other
  cases kind : property.kind <;> simp_all [PropertyKind.tag]

theorem stateArgument?_eq_some_iff : property.stateArgument? = some argument ↔
    ∃ category, property.kind = .lifecycle category ∧
      argument = valueArgument "state" (.choice category false) := by
  unfold stateArgument?
  split
  · next category kind => simp [kind, eq_comm]
  · next other =>
    simp only [reduceCtorEq, false_iff]
    rintro ⟨category, kind, -⟩
    exact other category kind

theorem name_of_stateArgument?_eq_some (found : property.stateArgument? = some argument) :
    argument.name = "state" := by
  obtain ⟨category, -, rfl⟩ := stateArgument?_eq_some_iff.mp found
  rfl

theorem parentObject?_eq_some_iff : property.parentObject? = some argument ↔
    ∃ parent, property.kind = .linkedToParent parent ∧
      argument = { name := parentArgumentName property.name, kind := .object parent } := by
  unfold parentObject?
  split
  · next parent kind => simp [kind, parentArgumentName, eq_comm]
  · next other =>
    simp only [reduceCtorEq, false_iff]
    rintro ⟨parent, kind, -⟩
    exact other parent kind

end Property

namespace Entity

variable {entity : Entity}

/-- The arguments that creation takes according to the active properties. -/
def expectedArguments (entity : Entity) : List Argument :=
  entity.activeProperties.filterMap Property.stateArgument? ++
    entity.activeProperties.filterMap Property.parentObject?

/-! ## At most one lifecycle -/

/-- The entity stores at most one property of the kind, legacy ones included. -/
def HasAtMostOne (entity : Entity) (tag : PropertyTag) : Prop :=
  (entity.properties.map Property.tag).count tag ≤ 1

variable {tag : PropertyTag}

theorem hasAtMostOne_iff : entity.HasAtMostOne tag ↔
    (entity.properties.filter fun property => property.tag == tag).length ≤ 1 := by
  rw [HasAtMostOne, List.count, List.countP_map, List.countP_eq_length_filter]
  rfl

theorem HasAtMostOne.filter_eq (single : entity.HasAtMostOne tag) :
    (entity.properties.filter fun property => property.tag == tag) =
      (entity.properties.find? fun property => property.tag == tag).toList := by
  rw [hasAtMostOne_iff] at single
  rw [← List.head?_filter]
  rcases filtered : entity.properties.filter fun property => property.tag == tag with
    _ | ⟨first, _ | ⟨second, rest⟩⟩
  · simp [filtered]
  · simp [filtered]
  · simp [filtered] at single

theorem WellFormed.hasAtMostOne_lifecycle (wellFormed : entity.WellFormed) :
    entity.HasAtMostOne .lifecycle := by
  have distinct : (entity.properties.filter fun property => property.tag == .lifecycle).Nodup :=
    wellFormed.propertyNames.of_map.filter _
  rw [hasAtMostOne_iff]
  rcases filtered : entity.properties.filter fun property => property.tag == .lifecycle with
    _ | ⟨first, _ | ⟨second, rest⟩⟩
  · simp [filtered]
  · simp [filtered]
  · have stored : ∀ property ∈ first :: second :: rest,
        property ∈ entity.properties ∧ property.tag = .lifecycle := by
      simp [← filtered]
    rcases stored first (by simp) with ⟨firstMem, firstTag⟩
    rcases stored second (by simp) with ⟨secondMem, secondTag⟩
    have same := wellFormed.eq_of_lifecycle firstMem secondMem firstTag secondTag
    simp [filtered, same] at distinct

/-! ## The arguments -/

/-- What only properties of one kind answer is answered by the stored properties of this kind that
are active. -/
theorem filterMap_activeProperties {α : Type} {answer? : Property → Option α}
    (silent : ∀ property, property.tag ≠ tag → answer? property = none) :
    entity.activeProperties.filterMap answer? =
      (entity.properties.filter fun property => property.tag == tag).filterMap fun property =>
        if property.isLegacy then none else answer? property := by
  rw [activeProperties, List.filterMap_filter, List.filterMap_filter]
  refine List.filterMap_congr fun property _ => ?_
  by_cases tagged : property.tag = tag
  · cases property.isLegacy <;> simp [tagged]
  · simp [silent property tagged]

theorem HasAtMostOne.length_states_le (single : entity.HasAtMostOne .lifecycle) :
    (entity.activeProperties.filterMap Property.stateArgument?).length ≤ 1 := by
  rw [filterMap_activeProperties fun _ => Property.stateArgument?_eq_none]
  exact Nat.le_trans (List.length_filterMap_le _ _) (hasAtMostOne_iff.mp single)

/-- Insertion gains its arguments from the active properties, wherever they are stored. -/
theorem HasAtMostOne.map_insertArguments (single : entity.HasAtMostOne .lifecycle) :
    (Property.insertArguments (entity.siblings [])).map Argument.ofMethodArgument =
      entity.expectedArguments := by
  unfold Property.insertArguments expectedArguments
  rw [List.map_append]
  apply congrArg₂ (· ++ ·)
  · rw [filterMap_activeProperties fun _ => Property.stateArgument?_eq_none, single.filter_eq,
      Siblings.first?]
    simp only [siblings]
    cases entity.properties.find? fun property => property.tag == .lifecycle with
    | none => rfl
    | some lifecycle =>
        cases legacy : lifecycle.isLegacy <;> cases kind : lifecycle.kind <;>
          simp [legacy, kind, Property.stateArgument?, Argument.ofMethodArgument, valueArgument]
  · rw [filterMap_activeProperties fun _ => Property.parentObject?_eq_none, List.map_filterMap]
    refine List.filterMap_congr fun link _ => ?_
    cases legacy : link.isLegacy <;> cases kind : link.kind <;>
      simp [kind, Property.parentObject?, Argument.ofMethodArgument, parentArgumentName]

theorem method_of_mem_insertArguments {siblings : Siblings} {argument : MethodArgument}
    (mem : argument ∈ Property.insertArguments siblings) : argument.method = "insert" := by
  unfold Property.insertArguments at mem
  rcases List.mem_append.mp mem with state | parent
  · repeat' split at state
    · rw [List.mem_singleton.mp state]
    · contradiction
    · contradiction
  · rcases List.mem_filterMap.mp parent with ⟨link, -, gained⟩
    split at gained
    · rw [← Option.some.inj gained]
    · contradiction

namespace Settled

variable (settled : entity.Settled)
include settled

/-- The arguments of creation are those that insertion gained. -/
theorem creationArguments_eq :
    entity.creationArguments =
      if entity.hasKind .storedObject then
        (Property.insertArguments (entity.siblings [])).map Argument.ofMethodArgument
      else [] := by
  have all : ((Property.insertArguments (entity.siblings [])).filter fun argument =>
      argument.method == "insert") = Property.insertArguments (entity.siblings []) := by
    rw [List.filter_eq_self]
    intro argument mem
    rw [method_of_mem_insertArguments mem, beq_self_eq_true]
  rw [creationArguments, hasKind_eq_isSome_firstOf?]
  cases found : entity.firstOf? .storedObject with
  | none => rfl
  | some stored =>
      rcases mem_of_firstOf?_eq_some found with ⟨inActive, tagged⟩
      have mem := (mem_activeProperties_iff.mp inActive).1
      have kind : stored.kind = .storedObject := PropertyKind.tag_eq_storedObject_iff.mp tagged
      simp only [settled.extraArguments_storedObject mem kind, all, Option.isSome_some, if_true]

/-- These are the arguments that the active properties bring to creation. -/
theorem creationArguments_eq_expected (single : entity.HasAtMostOne .lifecycle) :
    entity.creationArguments =
      if entity.hasKind .storedObject then entity.expectedArguments else [] := by
  rw [settled.creationArguments_eq, single.map_insertArguments]

end Settled

end Entity

end EntitySurface
