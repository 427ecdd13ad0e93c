import EntitySurface.Proofs.Derivation.Inputs
import EntitySurface.Proofs.Surface.Derived

/-!
# Where arguments come from

Every argument of an operation or a page stands for objects of the entity or of an entity that it is
related to, for the state or a parent that a property asks for, for the criterion of a search, or it
is one of a few that look the same for all entities. What is shown of an argument is shown of these
sources, once for all rules.
-/

namespace EntitySurface

/-- The arguments that stand for objects of an entity at the other end of a relation. -/
def EntityKey.relatedArguments (key : EntityKey) : List Argument :=
  [key.objectArgument, key.objectsArgument, leftArgument key, rightArgument key,
   { name := "new_" ++ Text.snakeCase key.name, kind := .object key }]

/-- The arguments that stand for objects of the entity itself. -/
def Entity.ownArguments (entity : Entity) : List Argument :=
  [entity.objectArgument, entity.objectsArgument,
   { name := "predecessor", kind := .object entity.key }]

/-- The arguments that are the same for all entities. -/
def Derivation.commonArguments : List Argument :=
  ["flat_file", "sample_file", "export_file", "image", "attachment", "document"].map fileArgument ++
    [valueArgument "start_time" .timestamp, valueArgument "end_time" .timestamp,
     valueArgument "target_date" .date, valueArgument "nr" (.text 64),
     valueArgument "assignee" (.text 64), valueArgument "attachment_name" (.text 255)]

/-- The arguments that rules may put together for an entity. -/
inductive Entity.Supplies (rules : List DerivationRule) (entity : Entity) : Argument → Prop where
  | common {argument : Argument} (listed : argument ∈ Derivation.commonArguments) :
      Supplies rules entity argument
  | own {argument : Argument} (listed : argument ∈ entity.ownArguments) :
      Supplies rules entity argument
  | related {property : Property} {key : EntityKey} {argument : Argument}
      (stored : property ∈ entity.properties)
      (bound : .entity key ∈ property.kind.bindings.map Binding.target)
      (listed : argument ∈ key.relatedArguments) : Supplies rules entity argument
  | state {lifecycle : Property} {argument : Argument} (stored : lifecycle ∈ entity.properties)
      (brought : lifecycle.stateArgument? = some argument) : Supplies rules entity argument
  | parent {link : Property} {argument : Argument} (stored : link ∈ entity.properties)
      (brought : link.parentObject? = some argument) : Supplies rules entity argument
  /-- Only the showing rule searches, and only entities that are shown. -/
  | searched {widget : SearchWidget} (inRules : .showing ∈ rules)
      (shown : entity.hasShowSurface = true) (mem : widget ∈ entity.searchWidgets) :
      Supplies rules entity (entity.widgetArgument widget)

/-- The arguments of the contribution, if it has any, come from the entity. -/
def Contribution.SuppliedBy (rules : List DerivationRule) (entity : Entity) : Contribution → Prop
  | .operation derived =>
      (∀ argument ∈ derived.inputs, entity.Supplies rules argument) ∧
        ∀ argument ∈ derived.outputs, entity.Supplies rules argument
  | .page derived => ∀ argument ∈ derived.inputs, entity.Supplies rules argument
  | .menuEntry _ | .searchPlan _ => True

namespace Contribution

variable {rules : List DerivationRule} {entity : Entity} {name : String}
  {inputs outputs : List Argument} {groups : List GroupKind}

@[simp]
theorem suppliedBy_operation :
    (Contribution.operation (entity.operation name inputs outputs groups)).SuppliedBy rules entity ↔
      (∀ argument ∈ inputs, entity.Supplies rules argument) ∧
        ∀ argument ∈ outputs, entity.Supplies rules argument :=
  Iff.rfl

@[simp]
theorem suppliedBy_guardedOperation :
    (Contribution.operation (entity.guardedOperation name inputs outputs groups)).SuppliedBy rules
        entity ↔
      (∀ argument ∈ inputs, entity.Supplies rules argument) ∧
        ∀ argument ∈ outputs, entity.Supplies rules argument :=
  Iff.rfl

@[simp]
theorem suppliedBy_page (page : Page) :
    (Contribution.page page).SuppliedBy rules entity ↔
      ∀ argument ∈ page.inputs, entity.Supplies rules argument :=
  Iff.rfl

@[simp]
theorem suppliedBy_menuEntry (entry : MenuEntry) :
    (Contribution.menuEntry entry).SuppliedBy rules entity :=
  trivial

@[simp]
theorem suppliedBy_searchPlan (plan : SearchPlan) :
    (Contribution.searchPlan plan).SuppliedBy rules entity :=
  trivial

end Contribution

@[simp]
theorem Page.forOperation_inputs (operation : Operation) :
    (forOperation operation).inputs = operation.inputs :=
  rfl

namespace Entity

variable {rules : List DerivationRule} {entity : Entity}

@[simp]
theorem operation_inputs (entity : Entity) (name : String) (inputs outputs : List Argument)
    (groups : List GroupKind) : (entity.operation name inputs outputs groups).inputs = inputs :=
  rfl

@[simp]
theorem guardedOperation_inputs (entity : Entity) (name : String) (inputs outputs : List Argument)
    (groups : List GroupKind) :
    (entity.guardedOperation name inputs outputs groups).inputs = inputs :=
  rfl

@[simp]
theorem supplies_objectArgument : entity.Supplies rules entity.objectArgument :=
  .own (by simp [ownArguments])

@[simp]
theorem supplies_objectsArgument : entity.Supplies rules entity.objectsArgument :=
  .own (by simp [ownArguments])

theorem mem_properties_of_firstOf? {tag : PropertyTag} {property : Property}
    (found : entity.firstOf? tag = some property) : property ∈ entity.properties :=
  (mem_activeProperties_iff.mp (mem_of_firstOf?_eq_some found).1).1

/-- The objects at both ends of a link. -/
theorem supplies_linkEnds (rules : List DerivationRule) {link : Property} {left right : EntityKey}
    (stored : link ∈ entity.properties) (kind : link.kind = .linkObject left right) :
    (∀ argument ∈ left.relatedArguments, entity.Supplies rules argument) ∧
      ∀ argument ∈ right.relatedArguments, entity.Supplies rules argument :=
  ⟨fun _ => .related stored (by simp [kind, PropertyKind.bindings]),
    fun _ => .related stored (by simp [kind, PropertyKind.bindings])⟩

/-- The objects at either end of an auto-link. -/
theorem supplies_autolinkEnd (rules : List DerivationRule) {link : Property} {joined : EntityKey}
    (stored : link ∈ entity.properties) (kind : link.kind = .autolinkObject joined) :
    ∀ argument ∈ joined.relatedArguments, entity.Supplies rules argument :=
  fun _ => .related stored (by simp [kind, PropertyKind.bindings])

/-- The parent of a stored parent link. -/
theorem Settled.supplies_parentArgument (settled : entity.Settled) {link : Property}
    (stored : link ∈ entity.properties) {argument : Argument}
    (found : link.parentArgument? = some argument) : entity.Supplies rules argument := by
  rw [settled.parentArgument?_eq stored] at found
  unfold Property.parentArgument? at found
  split at found
  · next parent kind =>
    refine .parent stored (Property.parentObject?_eq_some_iff.mpr ⟨parent, kind, ?_⟩)
    exact (Option.some.inj found).symm
  · contradiction

/-- Creation takes the state of a lifecycle and the parents of parent links. -/
theorem Settled.supplies_creationArguments (settled : entity.Settled)
    (wellFormed : entity.WellFormed) :
    ∀ argument ∈ entity.creationArguments, entity.Supplies rules argument := by
  rw [settled.creationArguments_eq_expected wellFormed.hasAtMostOne_lifecycle]
  split
  · rw [expectedArguments, List.forall_mem_append]
    constructor
    · intro argument mem
      obtain ⟨lifecycle, active, brought⟩ := List.mem_filterMap.mp mem
      exact .state (mem_activeProperties_iff.mp active).1 brought
    · intro argument mem
      obtain ⟨link, active, brought⟩ := List.mem_filterMap.mp mem
      exact .parent (mem_activeProperties_iff.mp active).1 brought
  · exact List.forall_mem_nil _

end Entity

/-! ## Rule by rule -/

namespace Derivation

variable {rules : List DerivationRule} {entity : Entity} {contributed : List Contribution}

theorem suppliedBy_creation (settled : entity.Settled) (wellFormed : entity.WellFormed) :
    ∀ contribution ∈ creation entity, contribution.SuppliedBy rules entity := by
  have arguments : ∀ argument ∈ entity.creationArguments, entity.Supplies rules argument :=
    settled.supplies_creationArguments wellFormed
  simpa [creation, withPage] using arguments

theorem suppliedBy_showing (inRules : .showing ∈ rules) (shown : entity.hasShowSurface = true) :
    ∀ contribution ∈ showing entity, contribution.SuppliedBy rules entity := by
  have searched : ∀ argument ∈ entity.searchArguments, entity.Supplies rules argument :=
    List.forall_mem_map.mpr fun widget mem => .searched inRules shown mem
  have primary : ∀ argument ∈ entity.searchPageArguments, entity.Supplies rules argument :=
    List.forall_mem_map.mpr fun widget mem =>
      .searched inRules shown (List.mem_filter.mp mem).1
  unfold showing
  rw [List.forall_mem_append]
  constructor
  · simpa (disch := decide) [withPage, Entity.Supplies.common] using And.intro primary searched
  · split <;> simp

theorem suppliedBy_history :
    ∀ contribution ∈ history entity, contribution.SuppliedBy rules entity := by
  unfold history
  rw [List.forall_mem_append]
  constructor
  · simp [withPage]
  · split <;> simp

theorem suppliedBy_stateChange :
    ∀ contribution ∈ stateChange entity, contribution.SuppliedBy rules entity := by
  unfold stateChange
  split
  · next category found =>
    obtain ⟨lifecycle, first, kind⟩ := Option.map_eq_some_iff.mp found
    have state : entity.Supplies rules (valueArgument "state" (.choice category false)) :=
      .state (Entity.mem_properties_of_firstOf? first)
        (Property.stateArgument?_eq_some_iff.mpr ⟨category, kind, rfl⟩)
    simp [state]
  · nofun

theorem suppliedBy_rescheduling :
    ∀ contribution ∈ rescheduling entity, contribution.SuppliedBy rules entity := by
  simp (disch := decide) [rescheduling, Entity.Supplies.common]

theorem suppliedBy_planning :
    ∀ contribution ∈ planning entity, contribution.SuppliedBy rules entity := by
  have predecessor : entity.Supplies rules { name := "predecessor", kind := .object entity.key } :=
    .own (by simp [Entity.ownArguments])
  simp (disch := decide) [planning, predecessor, Entity.Supplies.common]

theorem suppliedBy_targetDate (outcome : targetDate entity = .ok contributed) :
    ∀ contribution ∈ contributed, contribution.SuppliedBy rules entity := by
  unfold targetDate at outcome
  split at outcome
  · cases outcome
    simp (disch := decide) [Entity.Supplies.common]
  · contradiction

theorem suppliedBy_tasks : ∀ contribution ∈ tasks entity, contribution.SuppliedBy rules entity := by
  simp (disch := decide) [tasks, Entity.Supplies.common]

/-- Renumbering takes the parent within which numbers are unique. -/
theorem suppliedBy_renumbering (settled : entity.Settled) (wellFormed : entity.WellFormed) :
    ∀ contribution ∈ renumbering entity, contribution.SuppliedBy rules entity := by
  unfold renumbering
  split
  · next numbered found =>
    obtain ⟨earlier, later, split⟩ := List.append_of_mem (Entity.mem_properties_of_firstOf? found)
    have tagged := (Entity.mem_of_firstOf?_eq_some found).2
    have scope : ∀ argument ∈ (numbered.extraArguments "renumber").map Argument.ofMethodArgument,
        entity.Supplies rules argument := by
      rw [settled.extraArguments_renumber wellFormed.propertyNames split
        (PropertyKind.tag_eq_numbered_iff.mp tagged)]
      intro argument mem
      obtain ⟨link, first, parent⟩ := Option.bind_eq_some_iff.mp (Option.mem_toList.mp mem)
      have stored : link ∈ entity.properties := by
        rw [split]
        exact List.mem_append_left _ (Property.mem_of_firstLink?_eq_some first).1
      rw [← settled.parentArgument?_eq stored] at parent
      exact settled.supplies_parentArgument stored parent
    simpa (disch := decide) [Entity.Supplies.common] using scope
  · nofun

theorem suppliedBy_parentChanges (settled : entity.Settled)
    (outcome : parentChanges entity = .ok contributed) :
    ∀ contribution ∈ contributed, contribution.SuppliedBy rules entity := by
  unfold parentChanges at outcome
  split at outcome
  · contradiction
  · cases outcome
    rw [List.forall_mem_flatMap]
    intro link mem
    unfold parentChange
    split
    · next parent found =>
      have stored := DerivationRule.mem_properties_of_mem_parentLinks mem
      simp [settled.supplies_parentArgument stored found]
    · nofun

/-- Deletion shows the parent of a sub-object or an object at an end of a link. -/
theorem suppliedBy_deletion (settled : entity.Settled)
    (outcome : deletion entity = .ok contributed) :
    ∀ contribution ∈ contributed, contribution.SuppliedBy rules entity := by
  unfold deletion at outcome
  dsimp only at outcome
  split at outcome
  · contradiction
  · split at outcome
    · next link found =>
      split at outcome
      · next parent shown =>
        cases outcome
        have stored : link ∈ entity.properties :=
          (Entity.mem_activeProperties_iff.mp (List.mem_of_find?_eq_some found)).1
        simp [settled.supplies_parentArgument stored shown]
      · contradiction
    · split at outcome
      · next left right found =>
        obtain ⟨link, first, kind⟩ := Option.map_eq_some_iff.mp found
        obtain ⟨onLeft, onRight⟩ := Entity.supplies_linkEnds rules
          (Entity.mem_properties_of_firstOf? first) kind
        simp only [EntityKey.relatedArguments, List.forall_mem_cons] at onLeft onRight
        cases outcome
        simp [onLeft, onRight]
      · cases outcome
        nofun
      · next joined _ found =>
        obtain ⟨link, first, kind⟩ := Option.map_eq_some_iff.mp found
        have joins :=
          Entity.supplies_autolinkEnd rules (Entity.mem_properties_of_firstOf? first) kind
        simp only [EntityKey.relatedArguments, List.forall_mem_cons] at joins
        cases outcome
        simp [joins]
      · cases outcome
        nofun
      · cases outcome
        simp

theorem suppliedBy_linking :
    ∀ contribution ∈ linking entity, contribution.SuppliedBy rules entity := by
  unfold linking
  split
  · next link first =>
    split
    · next left right kind =>
      obtain ⟨onLeft, onRight⟩ := Entity.supplies_linkEnds rules
        (Entity.mem_properties_of_firstOf? first) kind
      simp only [EntityKey.relatedArguments, List.forall_mem_cons] at onLeft onRight
      rw [List.forall_mem_append, List.forall_mem_flatMap]
      refine ⟨by simp [onLeft, onRight], fun rule _ => ?_⟩
      unfold constraintLookups
      cases rule.restrictsLeft <;> cases rule.restrictsRight <;> simp [onLeft, onRight]
    · nofun
  · nofun

theorem suppliedBy_autolinking :
    ∀ contribution ∈ autolinking entity, contribution.SuppliedBy rules entity := by
  unfold autolinking
  split
  · next link first =>
    split
    · next joined kind =>
      have joins := Entity.supplies_autolinkEnd rules (Entity.mem_properties_of_firstOf? first) kind
      simp only [EntityKey.relatedArguments, List.forall_mem_cons] at joins
      split <;> simp [joins]
    · nofun
  · nofun

theorem suppliedBy_childCollections :
    ∀ contribution ∈ childCollections entity, contribution.SuppliedBy rules entity := by
  unfold childCollections
  rw [List.forall_mem_flatMap]
  intro collection mem
  have stored : collection ∈ entity.properties :=
    (Entity.mem_activeProperties_iff.mp (List.mem_filter.mp mem).1).1
  split
  · next child link kind =>
    have children : entity.Supplies rules child.objectsArgument :=
      .related stored (by simp [kind, PropertyKind.bindings])
        (List.mem_cons_of_mem _ List.mem_cons_self)
    simp (disch := decide) [children, Entity.Supplies.common]
  · simp

theorem suppliedBy_images :
    ∀ contribution ∈ images entity, contribution.SuppliedBy rules entity := by
  rw [images, List.forall_mem_flatMap]
  simp (disch := decide) [Entity.Supplies.common]

theorem suppliedBy_attachments :
    ∀ contribution ∈ attachments entity, contribution.SuppliedBy rules entity := by
  unfold attachments
  split
  · simp (disch := decide) [Entity.Supplies.common]
  · nofun

theorem suppliedBy_printOuts :
    ∀ contribution ∈ printOuts entity, contribution.SuppliedBy rules entity := by
  simp (disch := decide) [printOuts, Entity.Supplies.common]

end Derivation

open EntitySurface.Derivation in
/-- Whatever the rule, the arguments of its contributions come from the entity. -/
theorem DerivationRule.suppliedBy {rules : List DerivationRule} {rule : DerivationRule}
    {entity : Entity} {contributed : List Contribution} (settled : entity.Settled)
    (wellFormed : entity.WellFormed) (inRules : rule ∈ rules)
    (applies : rule.appliesTo entity = true)
    (outcome : rule.contributions entity = .ok contributed) :
    ∀ contribution ∈ contributed, contribution.SuppliedBy rules entity := by
  cases rule
  case targetDate => exact suppliedBy_targetDate outcome
  case parentLinks => exact suppliedBy_parentChanges settled outcome
  case deletion => exact suppliedBy_deletion settled outcome
  all_goals cases outcome
  case create => exact suppliedBy_creation settled wellFormed
  case showing => exact suppliedBy_showing inRules applies
  case lifecycle => exact suppliedBy_stateChange
  case timeSlot => exact suppliedBy_rescheduling
  case schedule => exact suppliedBy_planning
  case history => exact suppliedBy_history
  case workflow => exact suppliedBy_tasks
  case numbering => exact suppliedBy_renumbering settled wellFormed
  case link => exact suppliedBy_linking
  case autolink => exact suppliedBy_autolinking
  case children => exact suppliedBy_childCollections
  case content =>
    rw [List.forall_mem_append]
    exact ⟨suppliedBy_images, suppliedBy_attachments⟩
  case printOut => exact suppliedBy_printOuts

/-! ## Whole surfaces -/

namespace Surface

variable {rules : List DerivationRule} {entity : Entity} {surface : Surface}

theorem suppliedBy_of_contributed (settled : entity.Settled) (wellFormed : entity.WellFormed)
    {contribution : Contribution} (among : Contributed rules entity contribution) :
    contribution.SuppliedBy rules entity := by
  obtain ⟨rule, inRules, applies, contributed, outcome, mem⟩ := among
  exact rule.suppliedBy settled wellFormed inRules applies outcome contribution mem

variable (derived : derive rules entity = .ok surface) (settled : entity.Settled)
  (wellFormed : entity.WellFormed)
include derived settled wellFormed

/-- The inputs and outputs of derived operations come from the entity. -/
theorem supplies_of_mem_operations {operation : Operation} (mem : operation ∈ surface.operations) :
    ∀ argument ∈ operation.inputs ++ operation.outputs, entity.Supplies rules argument :=
  List.forall_mem_append.mpr
    (suppliedBy_of_contributed settled wellFormed ((mem_operations_iff derived).mp mem))

theorem supplies_of_mem_pages {page : Page} (mem : page ∈ surface.pages) :
    ∀ argument ∈ page.inputs, entity.Supplies rules argument :=
  suppliedBy_of_contributed settled wellFormed ((mem_pages_iff derived).mp mem)

end Surface

end EntitySurface
