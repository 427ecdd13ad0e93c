import EntitySurface.Proofs.Derivation.Legacy
import EntitySurface.Proofs.Derivation.Names
import EntitySurface.Proofs.Text.Words

/-!
# The names of inputs

An operation takes an object under the name of its entity, and beside it inputs whose names come
from elsewhere: fixed words and the names of parent links. The latter never repeat one another. So
the inputs of all operations have different names unless the entity itself is named like one of
those that stand beside its objects.
-/

namespace EntitySurface

/-! ## Names -/

@[simp]
theorem Entity.objectArgument_name (entity : Entity) :
    entity.objectArgument.name = entity.moduleName :=
  rfl

@[simp]
theorem valueArgument_name (name : String) (type : FieldType) :
    (valueArgument name type).name = name :=
  rfl

@[simp]
theorem fileArgument_name (name : String) : (fileArgument name).name = name :=
  rfl

@[simp]
theorem Argument.ofMethodArgument_name (argument : MethodArgument) :
    (ofMethodArgument argument).name = argument.name := by
  unfold ofMethodArgument
  split <;> rfl

theorem ne_parentArgumentName {name : String} (other : name.toList.getLast? ≠ some 'd')
    (link : String) : name ≠ parentArgumentName link := by
  rintro rfl
  simp [parentArgumentName] at other

/-- A plural ends in an `s`, if in anything. -/
theorem Text.plural_ne_parentArgumentName (word link : String) :
    plural word ≠ parentArgumentName link := by
  apply ne_parentArgumentName
  rcases pluralFromEnd_eq word.toList.reverse with empty | same | same | ⟨stem, -, same⟩
  · simp [plural, empty, pluralFromEnd]
  all_goals simp [plural, same]

/-! ## Inputs with different names -/

/-- The inputs of the operation, if it is one, go by different names. -/
def Contribution.DistinctInputs : Contribution → Prop
  | .operation derived => (derived.inputs.map Argument.name).Nodup
  | .page _ | .menuEntry _ | .searchPlan _ => True

namespace Contribution

variable {entity : Entity} {name : String} {inputs outputs : List Argument}
  {groups : List GroupKind}

@[simp]
theorem distinctInputs_operation :
    (Contribution.operation (entity.operation name inputs outputs groups)).DistinctInputs ↔
      (inputs.map Argument.name).Nodup :=
  Iff.rfl

@[simp]
theorem distinctInputs_guardedOperation :
    (Contribution.operation (entity.guardedOperation name inputs outputs groups)).DistinctInputs ↔
      (inputs.map Argument.name).Nodup :=
  Iff.rfl

@[simp]
theorem distinctInputs_page (page : Page) : (Contribution.page page).DistinctInputs :=
  trivial

@[simp]
theorem distinctInputs_menuEntry (entry : MenuEntry) :
    (Contribution.menuEntry entry).DistinctInputs :=
  trivial

@[simp]
theorem distinctInputs_searchPlan (plan : SearchPlan) :
    (Contribution.searchPlan plan).DistinctInputs :=
  trivial

end Contribution

/-! ## Creation -/

namespace Entity

variable {entity : Entity}

theorem hasKind_iff_exists_mem_propertiesOf {tag : PropertyTag} :
    entity.hasKind tag = true ↔ ∃ property, property ∈ entity.propertiesOf tag := by
  simp [hasKind, propertiesOf]

theorem tag_of_mem_parentLinks {link : Property} (mem : link ∈ entity.parentLinks) :
    link.tag = .linkedToParent :=
  eq_of_beq (List.mem_filter.mp mem).2

/-- Active parent links name their parents differently. -/
theorem WellFormed.nodup_parentArgumentNames (wellFormed : entity.WellFormed) :
    (entity.parentLinks.map fun link => parentArgumentName link.name).Nodup := by
  have distinct : entity.parentLinks.Nodup :=
    (wellFormed.propertyNames.of_map.filter _).filter _
  refine distinct.map_on fun first firstMem second secondMem same => ?_
  have stored {link : Property} (mem : link ∈ entity.parentLinks) : link ∈ entity.properties :=
    DerivationRule.mem_properties_of_mem_parentLinks mem
  exact wellFormed.eq_of_parentArgumentName (stored firstMem) (stored secondMem)
    (tag_of_mem_parentLinks firstMem) (tag_of_mem_parentLinks secondMem) same

theorem map_name_parentObjects (entity : Entity) :
    (entity.activeProperties.filterMap Property.parentObject?).map Argument.name =
      entity.parentLinks.map fun link => parentArgumentName link.name := by
  rw [parentLinks, propertiesOf, List.map_filterMap, ← List.filterMap_eq_map,
    List.filterMap_filter]
  refine List.filterMap_congr fun link _ => ?_
  cases kind : link.kind <;>
    simp [Property.parentObject?, Property.tag, PropertyKind.tag, kind, parentArgumentName]

/-- Creation takes arguments with different names: no parent is named like a state. -/
theorem WellFormed.nodup_expectedArguments (wellFormed : entity.WellFormed) :
    (entity.expectedArguments.map Argument.name).Nodup := by
  rw [expectedArguments, List.map_append, map_name_parentObjects, List.nodup_append]
  refine ⟨?_, wellFormed.nodup_parentArgumentNames, ?_⟩
  · have few := wellFormed.hasAtMostOne_lifecycle.length_states_le
    rcases states : entity.activeProperties.filterMap Property.stateArgument? with
      _ | ⟨state, _ | ⟨other, rest⟩⟩
    · simp
    · simp
    · simp [states] at few
  · intro name inStates other inParents
    rcases List.mem_map.mp inStates with ⟨state, brought, rfl⟩
    rcases List.mem_map.mp inParents with ⟨link, -, rfl⟩
    rcases List.mem_filterMap.mp brought with ⟨lifecycle, -, found⟩
    rw [Property.name_of_stateArgument?_eq_some found]
    exact ne_parentArgumentName (by decide) link.name

theorem Settled.nodup_creationArguments (settled : entity.Settled)
    (wellFormed : entity.WellFormed) : (entity.creationArguments.map Argument.name).Nodup := by
  rw [settled.creationArguments_eq_expected wellFormed.hasAtMostOne_lifecycle]
  split
  · exact wellFormed.nodup_expectedArguments
  · exact List.nodup_nil

end Entity

namespace Derivation

variable {entity : Entity} {contributed : List Contribution}

theorem distinctInputs_creation (arguments : (entity.creationArguments.map Argument.name).Nodup) :
    (∀ contribution ∈ creation entity, contribution.DistinctInputs) ↔
      entity.moduleName ∉ entity.creationArguments.map Argument.name := by
  simp [creation, withPage, arguments, -List.mem_map]

theorem distinctInputs_showing (wellFormed : entity.WellFormed) :
    ∀ contribution ∈ showing entity, contribution.DistinctInputs := by
  have widgets : (entity.searchArguments.map Argument.name).Nodup := by
    rw [Entity.searchArguments, List.map_map]
    exact wellFormed.widgetArguments
  unfold showing
  rw [List.forall_mem_append]
  constructor
  · simp [withPage, widgets]
  · split <;> simp

theorem distinctInputs_history : ∀ contribution ∈ history entity, contribution.DistinctInputs := by
  unfold history
  rw [List.forall_mem_append]
  constructor
  · simp [withPage]
  · split <;> simp

theorem distinctInputs_deletion (outcome : deletion entity = .ok contributed) :
    ∀ contribution ∈ contributed, contribution.DistinctInputs := by
  unfold deletion at outcome
  repeat' split at outcome
  all_goals first | contradiction | cases outcome
  all_goals simp

theorem distinctInputs_stateChange (applies : entity.hasKind .lifecycle = true) :
    (∀ contribution ∈ stateChange entity, contribution.DistinctInputs) ↔
      entity.moduleName ∉ ["state"] := by
  obtain ⟨property, -, found, tagged⟩ := Entity.exists_firstOf? applies
  unfold stateChange
  rw [found]
  unfold Property.tag at tagged
  cases kind : property.kind <;> rw [kind] at tagged <;> first | contradiction | simp [kind]

theorem distinctInputs_rescheduling :
    (∀ contribution ∈ rescheduling entity, contribution.DistinctInputs) ↔
      entity.moduleName ∉ ["start_time", "end_time"] := by
  simp [rescheduling]

theorem distinctInputs_planning :
    (∀ contribution ∈ planning entity, contribution.DistinctInputs) ↔
      entity.moduleName ∉ ["start_time", "predecessor"] := by
  simp [planning, eq_comm]

theorem distinctInputs_targetDate (outcome : targetDate entity = .ok contributed) :
    (∀ contribution ∈ contributed, contribution.DistinctInputs) ↔
      entity.moduleName ∉ ["target_date"] := by
  unfold targetDate at outcome
  split at outcome
  · cases outcome
    simp
  · contradiction

theorem distinctInputs_tasks : (∀ contribution ∈ tasks entity, contribution.DistinctInputs) ↔
      entity.moduleName ∉ ["assignee"] := by
  simp [tasks]

/-- Renumbering takes a number and, within a scope, the parent that the scope is about. -/
theorem distinctInputs_renumbering (settled : entity.Settled) (wellFormed : entity.WellFormed)
    {numbered : Property} (found : entity.firstOf? .numbered = some numbered) :
    (∀ contribution ∈ renumbering entity, contribution.DistinctInputs) ↔
      entity.moduleName ∉
        "nr" :: (numbered.extraArguments "renumber").map MethodArgument.name := by
  obtain ⟨inActive, tagged⟩ := Entity.mem_of_firstOf?_eq_some found
  obtain ⟨earlier, later, split⟩ :=
    List.append_of_mem (Entity.mem_activeProperties_iff.mp inActive).1
  have scope := settled.extraArguments_renumber wellFormed.propertyNames split
    (PropertyKind.tag_eq_numbered_iff.mp tagged)
  have names : (numbered.extraArguments "renumber").map MethodArgument.name =
      ((numbered.extraArguments "renumber").map Argument.ofMethodArgument).map Argument.name := by
    simp
  have distinct : ("nr" :: (numbered.extraArguments "renumber").map MethodArgument.name).Nodup := by
    rw [names, scope]
    cases first : Property.firstLink? earlier with
    | none => simp
    | some link =>
        obtain ⟨-, parent, kind⟩ := Property.mem_of_firstLink?_eq_some first
        have other : "nr" ≠ parentArgumentName link.name :=
          ne_parentArgumentName (by decide) link.name
        simpa [Property.unresolved, Property.parentArgument?, kind] using other
  have inputs : ([entity.objectArgument, valueArgument "nr" (.text 64)] ++
      (numbered.extraArguments "renumber").map Argument.ofMethodArgument).map Argument.name =
      entity.moduleName :: "nr" ::
        (numbered.extraArguments "renumber").map MethodArgument.name := by
    simp
  simp only [renumbering, found, List.forall_mem_singleton,
    Contribution.distinctInputs_guardedOperation, inputs]
  exact List.nodup_cons.trans (and_iff_left distinct)

variable (entity) in
theorem distinctInputs_linking : ∀ contribution ∈ linking entity, contribution.DistinctInputs := by
  have apart (left right : EntityKey) :
      (leftArgument left).name ≠ (rightArgument right).name ∧
        (leftArgument left).name ≠ "new_" ++ Text.snakeCase right.name :=
    ⟨Text.append_ne_append (by decide) _ _, Text.append_ne_append (by decide) _ _⟩
  unfold linking
  split
  · split
    · rw [List.forall_mem_append, List.forall_mem_flatMap]
      refine ⟨by simp [apart], fun rule _ => ?_⟩
      unfold constraintLookups
      cases rule.restrictsLeft <;> cases rule.restrictsRight <;> simp
    · nofun
  · nofun

variable (entity) in
theorem distinctInputs_autolinking :
    ∀ contribution ∈ autolinking entity, contribution.DistinctInputs := by
  have apart (target : EntityKey) : (leftArgument target).name ≠ (rightArgument target).name :=
    Text.append_ne_append (by decide) _ _
  unfold autolinking
  split
  · split
    · split <;> simp [apart]
    · nofun
  · nofun

/-- Changing the parent of one object takes the object and the parent. -/
theorem distinctInputs_parentChanges (settled : entity.Settled)
    (outcome : parentChanges entity = .ok contributed) :
    (∀ contribution ∈ contributed, contribution.DistinctInputs) ↔
      entity.moduleName ∉ entity.parentLinks.map fun link => parentArgumentName link.name := by
  unfold parentChanges at outcome
  split at outcome
  · contradiction
  cases outcome
  have change : ∀ link ∈ entity.parentLinks,
      (∀ contribution ∈ parentChange entity link, contribution.DistinctInputs) ↔
        entity.moduleName ≠ parentArgumentName link.name := by
    intro link mem
    have stored := DerivationRule.mem_properties_of_mem_parentLinks mem
    obtain ⟨parent, kind⟩ :=
      PropertyKind.tag_eq_linkedToParent_iff.mp (Entity.tag_of_mem_parentLinks mem)
    have found : link.parentArgument? =
        some { name := parentArgumentName link.name, kind := .object parent } := by
      rw [settled.parentArgument?_eq stored]
      simp [Property.unresolved, Property.parentArgument?, kind]
    have several : entity.objectsArgument.name ≠ parentArgumentName link.name :=
      Text.plural_ne_parentArgumentName _ _
    simp [parentChange, found, several]
  rw [List.forall_mem_flatMap]
  simp only [List.mem_map, not_exists, not_and]
  refine forall_congr' fun link => forall_congr' fun mem => ?_
  rw [change link mem]
  exact ne_comm

theorem distinctInputs_childCollections (applies : entity.hasKind .hasChildren = true) :
    (∀ contribution ∈ childCollections entity, contribution.DistinctInputs) ↔
      entity.moduleName ∉ ["flat_file"] := by
  obtain ⟨children, present⟩ := Entity.hasKind_iff_exists_mem_propertiesOf.mp applies
  unfold childCollections
  rw [List.forall_mem_flatMap]
  have collection : ∀ property ∈ entity.propertiesOf .hasChildren,
      ∃ child link, property.kind = .hasChildren child link := by
    intro property mem
    have tagged : property.kind.tag = .hasChildren := eq_of_beq (List.mem_filter.mp mem).2
    cases kind : property.kind <;> rw [kind] at tagged <;> first | contradiction | exact ⟨_, _, rfl⟩
  constructor
  · intro distinct
    obtain ⟨child, link, kind⟩ := collection children present
    simpa [kind] using distinct children present
  · intro other property mem
    obtain ⟨child, link, kind⟩ := collection property mem
    simpa [kind] using other

theorem distinctInputs_images :
    (∀ contribution ∈ images entity, contribution.DistinctInputs) ↔
      (entity.hasKind .imageContent = true → entity.moduleName ∉ ["image"]) := by
  rw [images, List.forall_mem_flatMap]
  simp [Entity.hasKind_iff_exists_mem_propertiesOf]

theorem distinctInputs_attachments :
    (∀ contribution ∈ attachments entity, contribution.DistinctInputs) ↔
      (entity.hasKind .fileContent = true →
        entity.moduleName ∉ ["attachment", "attachment_name"]) := by
  unfold attachments
  split
  · next applies => simp [applies]
  · next skipped => simp [skipped]

theorem distinctInputs_printOuts :
    ∀ contribution ∈ printOuts entity, contribution.DistinctInputs := by
  simp [printOuts]

end Derivation

/-! ## All rules -/

namespace DerivationRule

open EntitySurface.Derivation

/-- The names of the inputs that the operations of a rule take beside one object of the entity. -/
def besideObject (rule : DerivationRule) (entity : Entity) : List String :=
  match rule with
  | create => entity.creationArguments.map Argument.name
  | lifecycle => ["state"]
  | timeSlot => ["start_time", "end_time"]
  | schedule => ["start_time", "predecessor"]
  | targetDate => ["target_date"]
  | parentLinks => entity.parentLinks.map fun link => parentArgumentName link.name
  | workflow => ["assignee"]
  | numbering =>
      "nr" :: (entity.firstOf? .numbered).toList.flatMap fun numbered =>
        (numbered.extraArguments "renumber").map MethodArgument.name
  | children => ["flat_file"]
  | content =>
      (if entity.hasKind .imageContent then ["image"] else []) ++
        if entity.hasKind .fileContent then ["attachment", "attachment_name"] else []
  | showing | deletion | history | link | autolink | printOut => []

variable {rule : DerivationRule} {entity : Entity} {contributed : List Contribution}

/-- The inputs that a rule takes beside an object never repeat one another, so only the name of the
entity may be repeated. -/
theorem distinctInputs_iff (settled : entity.Settled) (wellFormed : entity.WellFormed)
    (applies : rule.appliesTo entity = true)
    (outcome : rule.contributions entity = .ok contributed) :
    (∀ contribution ∈ contributed, contribution.DistinctInputs) ↔
      entity.moduleName ∉ rule.besideObject entity := by
  have trivially (distinct : ∀ contribution ∈ contributed, contribution.DistinctInputs)
      (nothing : rule.besideObject entity = []) :
      (∀ contribution ∈ contributed, contribution.DistinctInputs) ↔
        entity.moduleName ∉ rule.besideObject entity := by
    simpa [nothing] using distinct
  cases rule
  case targetDate => exact distinctInputs_targetDate outcome
  case parentLinks => exact distinctInputs_parentChanges settled outcome
  case deletion => exact trivially (distinctInputs_deletion outcome) rfl
  all_goals cases outcome
  case create => exact distinctInputs_creation (settled.nodup_creationArguments wellFormed)
  case showing => exact trivially (distinctInputs_showing wellFormed) rfl
  case lifecycle => exact distinctInputs_stateChange applies
  case timeSlot => exact distinctInputs_rescheduling
  case schedule => exact distinctInputs_planning
  case history => exact trivially distinctInputs_history rfl
  case workflow => exact distinctInputs_tasks
  case numbering =>
    obtain ⟨numbered, found, -⟩ := (Option.any_eq_true _ _).mp applies
    rw [distinctInputs_renumbering settled wellFormed found]
    simp [besideObject, found]
  case link => exact trivially (distinctInputs_linking entity) rfl
  case autolink => exact trivially (distinctInputs_autolinking entity) rfl
  case children => exact distinctInputs_childCollections applies
  case content =>
    rw [List.forall_mem_append, distinctInputs_images, distinctInputs_attachments]
    simp only [besideObject]
    cases entity.hasKind .imageContent <;> cases entity.hasKind .fileContent <;> simp
  case printOut => exact trivially distinctInputs_printOuts rfl

end DerivationRule

end EntitySurface
