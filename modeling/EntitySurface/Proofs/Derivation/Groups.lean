import EntitySurface.Derivation.Rule

/-!
# The action groups of the rules

Every derivation rule puts its operations into a few action groups of its own choice. The table of
these groups tells which rules can fill a group: deletion is the only one that asks for full access.
-/

namespace EntitySurface

/-- The contribution is no operation outside of the groups. -/
def Contribution.StaysWithin (groups : List GroupKind) : Contribution → Prop
  | .operation added => added.groups ⊆ groups
  | .page _ | .menuEntry _ | .searchPlan _ => True

namespace DerivationRule

/-- The groups that the operations of a rule join. -/
def groups : DerivationRule → List GroupKind
  | create => [.createNew]
  | showing => [.read, .modify, .lookup, .dataAdmin, .executiveRead]
  | lifecycle | numbering => [.steer]
  | timeSlot | targetDate => [.schedule]
  | schedule => [.read, .schedule]
  | parentLinks => [.modify]
  | deletion => [.full]
  | history => [.read, .modify, .executiveRead, .businessAdmin]
  | workflow => [.read, .businessAdmin]
  | link => [.read, .modify, .lookup]
  | autolink | content => [.read, .modify]
  | children => [.dataAdmin]
  | printOut => [.read]

end DerivationRule

@[simp]
theorem Entity.operation_groups (entity : Entity) (name : String) (inputs outputs : List Argument)
    (groups : List GroupKind) : (entity.operation name inputs outputs groups).groups = groups :=
  rfl

@[simp]
theorem Entity.guardedOperation_groups (entity : Entity) (name : String)
    (inputs outputs : List Argument) (groups : List GroupKind) :
    (entity.guardedOperation name inputs outputs groups).groups = groups :=
  rfl

namespace Derivation

open Contribution

variable (entity : Entity)

theorem staysWithin_showing : ∀ contribution ∈ showing entity,
    contribution.StaysWithin DerivationRule.showing.groups := by
  unfold showing
  rw [List.forall_mem_append]
  constructor
  · simp [withPage, DerivationRule.groups, StaysWithin]
  · split <;> simp [StaysWithin]

theorem staysWithin_history : ∀ contribution ∈ history entity,
    contribution.StaysWithin DerivationRule.history.groups := by
  unfold history
  rw [List.forall_mem_append]
  constructor
  · simp [withPage, DerivationRule.groups, StaysWithin]
  · split <;> simp [DerivationRule.groups, StaysWithin]

theorem staysWithin_constraintLookups (left right : EntityKey) (rule : BusinessRule) :
    ∀ contribution ∈ constraintLookups entity left right rule,
      contribution.StaysWithin DerivationRule.link.groups := by
  unfold constraintLookups
  cases rule.restrictsLeft <;> cases rule.restrictsRight <;>
    simp [DerivationRule.groups, StaysWithin]

theorem staysWithin_linking : ∀ contribution ∈ linking entity,
    contribution.StaysWithin DerivationRule.link.groups := by
  unfold linking
  split
  · split
    · rw [List.forall_mem_append, List.forall_mem_flatMap]
      constructor
      · simp [DerivationRule.groups, StaysWithin]
      · exact fun rule _ => staysWithin_constraintLookups entity _ _ rule
    · nofun
  · nofun

theorem staysWithin_autolinking : ∀ contribution ∈ autolinking entity,
    contribution.StaysWithin DerivationRule.autolink.groups := by
  unfold autolinking
  split
  · split
    · split <;> simp [DerivationRule.groups, StaysWithin]
    · nofun
  · nofun

theorem staysWithin_parentChange (link : Property) : ∀ contribution ∈ parentChange entity link,
    contribution.StaysWithin DerivationRule.parentLinks.groups := by
  unfold parentChange
  split
  · simp [DerivationRule.groups, StaysWithin]
  · nofun

theorem staysWithin_childCollections : ∀ contribution ∈ childCollections entity,
    contribution.StaysWithin DerivationRule.children.groups := by
  unfold childCollections
  rw [List.forall_mem_flatMap]
  intro collection _
  split
  · simp [DerivationRule.groups, StaysWithin]
  · nofun

theorem staysWithin_content : ∀ contribution ∈ images entity ++ attachments entity,
    contribution.StaysWithin DerivationRule.content.groups := by
  rw [List.forall_mem_append]
  constructor
  · unfold images
    rw [List.forall_mem_flatMap]
    intro image _
    simp [DerivationRule.groups, StaysWithin]
  · unfold attachments
    split
    · simp [DerivationRule.groups, StaysWithin]
    · nofun

variable {entity}

theorem staysWithin_deletion {contributed : List Contribution}
    (outcome : deletion entity = .ok contributed) :
    ∀ contribution ∈ contributed, contribution.StaysWithin DerivationRule.deletion.groups := by
  unfold deletion at outcome
  repeat' split at outcome
  all_goals first | contradiction | cases outcome
  all_goals simp [DerivationRule.groups, StaysWithin]

end Derivation

open EntitySurface.Derivation

/-- The operations of a rule join groups of the rule only. -/
theorem DerivationRule.staysWithin_groups {rule : DerivationRule} {entity : Entity}
    {contributed : List Contribution} (outcome : rule.contributions entity = .ok contributed) :
    ∀ contribution ∈ contributed, contribution.StaysWithin rule.groups := by
  cases rule
  case deletion => exact staysWithin_deletion outcome
  case targetDate =>
    simp only [contributions, Derivation.targetDate] at outcome
    split at outcome
    · cases outcome
      simp [groups, Contribution.StaysWithin]
    · contradiction
  case parentLinks =>
    simp only [contributions, parentChanges] at outcome
    split at outcome
    · contradiction
    · cases outcome
      exact List.forall_mem_flatMap.mpr fun link _ => staysWithin_parentChange entity link
  all_goals cases outcome
  case showing => exact staysWithin_showing entity
  case history => exact staysWithin_history entity
  case link => exact staysWithin_linking entity
  case autolink => exact staysWithin_autolinking entity
  case children => exact staysWithin_childCollections entity
  case content => exact staysWithin_content entity
  case lifecycle =>
    unfold stateChange
    split <;> simp [groups, Contribution.StaysWithin]
  case numbering =>
    unfold renumbering
    split <;> simp [groups, Contribution.StaysWithin]
  case create | timeSlot | schedule | workflow | printOut =>
    simp [creation, rescheduling, planning, tasks, printOuts, withPage, groups,
      Contribution.StaysWithin]

end EntitySurface
