import EntitySurface.Derivation.Rule

/-!
# Names of operations

The name of an operation starts with what the operation does, so that operations which do different
things cannot be named alike unless one start begins with the other one.
-/

namespace EntitySurface

/-- Neither text begins with the other one. -/
def Text.areApart (first second : String) : Bool :=
  !first.toList.isPrefixOf second.toList && !second.toList.isPrefixOf first.toList

theorem Text.append_ne_append {first second : String} (apart : areApart first second = true)
    (left right : String) : first ++ left ≠ second ++ right := by
  intro same
  have lists := congrArg String.toList same
  rw [String.toList_append, String.toList_append] at lists
  simp only [areApart, Bool.and_eq_true, Bool.not_eq_true', Bool.eq_false_iff, ne_eq,
    List.isPrefixOf_iff_prefix] at apart
  rcases List.append_eq_append_iff.mp lists with ⟨rest, longer, -⟩ | ⟨rest, longer, -⟩
  · exact apart.1 ⟨rest, longer.symm⟩
  · exact apart.2 ⟨rest, longer.symm⟩

/-- The contribution is no operation of the given name. -/
def Contribution.Avoids (name : String) : Contribution → Prop
  | .operation added => added.name ≠ name
  | .page _ | .menuEntry _ | .searchPlan _ => True

@[simp]
theorem Entity.operation_name (entity : Entity) (name : String) (inputs outputs : List Argument)
    (groups : List GroupKind) : (entity.operation name inputs outputs groups).name = name :=
  rfl

@[simp]
theorem Entity.guardedOperation_name (entity : Entity) (name : String)
    (inputs outputs : List Argument) (groups : List GroupKind) :
    (entity.guardedOperation name inputs outputs groups).name = name :=
  rfl

namespace Derivation

variable (entity : Entity)

theorem avoids_constraintLookups (left right : EntityKey) (rule : BusinessRule) :
    ∀ contribution ∈ constraintLookups entity left right rule,
      contribution.Avoids ("Renumber" ++ entity.pascalName) := by
  unfold constraintLookups
  cases rule.restrictsLeft <;> cases rule.restrictsRight <;> simp [Contribution.Avoids]

theorem avoids_linking : ∀ contribution ∈ linking entity,
    contribution.Avoids ("Renumber" ++ entity.pascalName) := by
  unfold linking
  split
  · split
    · rw [List.forall_mem_append, List.forall_mem_flatMap]
      refine ⟨?_, fun rule _ => avoids_constraintLookups entity _ _ rule⟩
      simp (disch := decide) [Contribution.Avoids, String.append_assoc, Text.append_ne_append]
    · nofun
  · nofun

theorem avoids_autolinking : ∀ contribution ∈ autolinking entity,
    contribution.Avoids ("Renumber" ++ entity.pascalName) := by
  unfold autolinking
  split
  · split
    · split <;> simp [Contribution.Avoids]
    · nofun
  · nofun

theorem avoids_parentChange (link : Property) : ∀ contribution ∈ parentChange entity link,
    contribution.Avoids ("Renumber" ++ entity.pascalName) := by
  unfold parentChange
  split
  · simp (disch := decide) [Contribution.Avoids, String.append_assoc, Text.append_ne_append]
  · nofun

theorem avoids_childCollections : ∀ contribution ∈ childCollections entity,
    contribution.Avoids ("Renumber" ++ entity.pascalName) := by
  unfold childCollections
  rw [List.forall_mem_flatMap]
  intro collection _
  split
  · simp (disch := decide) [Contribution.Avoids, Text.append_ne_append]
  · nofun

theorem avoids_images : ∀ contribution ∈ images entity,
    contribution.Avoids ("Renumber" ++ entity.pascalName) := by
  unfold images
  rw [List.forall_mem_flatMap]
  intro image _
  simp (disch := decide) [Contribution.Avoids, Text.append_ne_append]

theorem avoids_attachments : ∀ contribution ∈ attachments entity,
    contribution.Avoids ("Renumber" ++ entity.pascalName) := by
  unfold attachments
  split
  · simp [Contribution.Avoids]
  · nofun

theorem avoids_showing : ∀ contribution ∈ showing entity,
    contribution.Avoids ("Renumber" ++ entity.pascalName) := by
  unfold showing
  rw [List.forall_mem_append]
  constructor
  · simp [withPage, Contribution.Avoids]
  · split <;> simp [Contribution.Avoids]

theorem avoids_history : ∀ contribution ∈ history entity,
    contribution.Avoids ("Renumber" ++ entity.pascalName) := by
  unfold history
  rw [List.forall_mem_append]
  constructor
  · simp [withPage, Contribution.Avoids]
  · split <;> simp [Contribution.Avoids]

variable {entity}

theorem avoids_deletion {contributions : List Contribution}
    (outcome : deletion entity = .ok contributions) :
    ∀ contribution ∈ contributions, contribution.Avoids ("Renumber" ++ entity.pascalName) := by
  unfold deletion at outcome
  repeat' split at outcome
  all_goals first | contradiction | cases outcome
  all_goals simp [Contribution.Avoids]

end Derivation

namespace DerivationRule

open EntitySurface.Derivation

/-- Only the numbering rule contributes an operation under the name of renumbering. -/
theorem avoids_renumber {rule : DerivationRule} {entity : Entity} {contributed : List Contribution}
    (notNumbering : rule ≠ .numbering) (outcome : rule.contributions entity = .ok contributed) :
    ∀ contribution ∈ contributed, contribution.Avoids ("Renumber" ++ entity.pascalName) := by
  cases rule
  case numbering => contradiction
  case deletion => exact avoids_deletion outcome
  case targetDate =>
    simp only [contributions, Derivation.targetDate] at outcome
    split at outcome
    · cases outcome
      simp [Contribution.Avoids]
    · contradiction
  case parentLinks =>
    simp only [contributions, parentChanges] at outcome
    split at outcome
    · contradiction
    · cases outcome
      exact List.forall_mem_flatMap.mpr fun link _ => avoids_parentChange entity link
  all_goals cases outcome
  case showing => exact avoids_showing entity
  case history => exact avoids_history entity
  case link => exact avoids_linking entity
  case autolink => exact avoids_autolinking entity
  case children => exact avoids_childCollections entity
  case content =>
    exact List.forall_mem_append.mpr ⟨avoids_images entity, avoids_attachments entity⟩
  case lifecycle =>
    unfold stateChange
    split
    · simp [Contribution.Avoids]
    · nofun
  case printOut =>
    rw [printOuts, List.forall_mem_map]
    intro printOut _
    simp (disch := decide) [Contribution.Avoids, String.append_assoc, Text.append_ne_append]
  case create | timeSlot | schedule | workflow =>
    simp [creation, rescheduling, planning, tasks, withPage, Contribution.Avoids]

end DerivationRule

end EntitySurface
