import EntitySurface.Proofs.Derivation.OperationFunctions
import EntitySurface.Proofs.Schema.ContentOperations
import EntitySurface.Proofs.Schema.Creation

/-!
# Functions of a derived surface

The operations of a derived surface have different names. Whether their functions have different
names as well is decided by the families of which every member belongs to the surface: two members
of one family may become the same in snake case, and nothing else may.
-/

namespace EntitySurface

open Text

theorem mem_ite_singleton_iff {α : Type} {condition : Prop} [Decidable condition]
    {item only : α} : (item ∈ if condition then [only] else []) ↔ condition ∧ item = only := by
  rw [List.mem_ite_nil_right, List.mem_singleton]

/-- Deletion has an operation for every word that the structural role of the entity asks for. -/
theorem Entity.DeletionFamily.exists_operation_of_word {entity : Entity}
    {operations : List Operation} (family : entity.DeletionFamily operations) {word : String}
    (variant : word ∈ if entity.isSubObject then ["AndShowParent"]
      else if entity.isLink then ["LinkAndShowLeft", "LinkAndShowRight"]
      else if entity.isAutolink then ["AutolinkAndShowObject"]
      else [""]) :
    ∃ operation ∈ operations, operation.name = "Delete" ++ (word ++ entity.pascalName) := by
  cases family with
  | subObject found =>
      have subObject : entity.isSubObject = true := by simp [Entity.isSubObject, found]
      rw [if_pos subObject, List.mem_singleton] at variant
      exact ⟨_, List.mem_singleton_self _, by rw [variant, ← String.append_assoc]; rfl⟩
  | link independent linked =>
      rw [independent, if_neg Bool.false_ne_true, if_pos linked] at variant
      rcases List.mem_cons.mp variant with rfl | right
      · exact ⟨_, List.mem_cons_self, by rw [← String.append_assoc]; rfl⟩
      · rw [List.mem_singleton] at right
        exact ⟨_, List.mem_cons_of_mem _ (List.mem_singleton_self _),
          by rw [right, ← String.append_assoc]; rfl⟩
  | autolink independent unlinked joined =>
      rw [independent, unlinked, if_neg Bool.false_ne_true, if_neg Bool.false_ne_true,
        if_pos joined, List.mem_singleton] at variant
      exact ⟨_, List.mem_singleton_self _, by rw [variant, ← String.append_assoc]; rfl⟩
  | plain independent unlinked single =>
      rw [independent, unlinked, single, if_neg Bool.false_ne_true, if_neg Bool.false_ne_true,
        if_neg Bool.false_ne_true, List.mem_singleton] at variant
      exact ⟨_, List.mem_singleton_self _, by rw [variant, String.empty_append]; rfl⟩

namespace Surface

variable {entity : Entity} {surface : Surface}

theorem namesOperation_of_mem {rules : List DerivationRule}
    (derived : derive rules entity = .ok surface) {operation : Operation}
    (mem : operation ∈ surface.operations) : entity.NamesOperation operation.name := by
  obtain ⟨rule, -, applies, contributed, outcome, among⟩ := (mem_operations_iff derived).mp mem
  exact DerivationRule.names_of_contributions applies outcome _ among

variable (derived : derive DerivationRule.standard entity = .ok surface)
include derived

/-- What a rule contributes by name belongs to the surface. -/
theorem exists_operation_of_contributions {rule : DerivationRule}
    (applies : rule.appliesTo entity = true) {contributed : List Contribution}
    (outcome : rule.contributions entity = .ok contributed) {name : String}
    (mem : name ∈ (contributed.filterMap Contribution.operation?).map Operation.name) :
    ∃ operation ∈ surface.operations, operation.name = name := by
  obtain ⟨operation, offered, named⟩ := List.mem_map.mp mem
  obtain ⟨contribution, among, isOperation⟩ := List.mem_filterMap.mp offered
  obtain rfl := Contribution.operation?_eq_some_iff.mp isOperation
  have listed : rule ∈ DerivationRule.standard := by cases rule <;> decide
  exact ⟨operation, (mem_operations_iff derived).mpr ⟨rule, listed, applies, _, outcome, among⟩,
    named⟩

theorem exists_changeParent {link : Property} (inLinks : link ∈ entity.parentLinks) :
    ∃ operation ∈ surface.operations, operation.name =
      "ChangeParent" ++ entity.pascalName ++ "For" ++ pascalCase link.name := by
  obtain ⟨key, kind⟩ := PropertyKind.tag_eq_linkedToParent_iff.mp
    (Entity.tag_of_mem_parentLinks inLinks)
  obtain ⟨parent, shown⟩ : ∃ parent, link.parentArgument? = some parent := by
    simp [Property.parentArgument?, kind]
  have changes : .operation (entity.guardedOperation
      ("ChangeParent" ++ entity.pascalName ++ "For" ++ pascalCase link.name)
      [entity.objectArgument, parent] [entity.objectArgument] [.modify]) ∈
        Derivation.parentChange entity link := by
    simp [Derivation.parentChange, shown]
  have found := operation?_of_mem_parentChange derived inLinks changes
  exact ⟨_, List.mem_of_find?_eq_some found, rfl⟩

theorem exists_bulkLoad {child : String} (among : child ∈ entity.childNames) :
    ∃ operation ∈ surface.operations, operation.name =
      "BulkLoad" ++ (child ++ "Under" ++ entity.pascalName) := by
  obtain ⟨collection, inCollections, named⟩ := List.mem_filterMap.mp among
  split at named
  · next key link kind =>
    cases named
    have present : entity.hasKind .hasChildren = true :=
      Entity.hasKind_iff_exists_mem_propertiesOf.mpr ⟨collection, inCollections⟩
    have loads : .operation (entity.guardedOperation
        ("BulkLoad" ++ (pascalCase key.name ++ "Under" ++ entity.pascalName))
        [entity.objectArgument, fileArgument "flat_file"] [key.objectsArgument]
        [.dataAdmin]) ∈ Derivation.childCollections entity := by
      refine List.mem_flatMap.mpr ⟨collection, inCollections, ?_⟩
      rw [kind]
      exact List.mem_cons_self
    exact ⟨_, (mem_operations_iff derived).mpr ⟨.children, by decide, present, _, rfl, loads⟩, rfl⟩
  · contradiction

theorem exists_previewPlan (scheduled : entity.hasKind .schedule = true) :
    ∃ operation ∈ surface.operations, operation.name = "PreviewPlan" ++ entity.pascalName := by
  have applies : DerivationRule.schedule.appliesTo entity = true := scheduled
  exact exists_operation_of_contributions derived applies rfl List.mem_cons_self

/-- An identified entity has the deletions of its structural role. -/
theorem exists_deletion (identified : entity.hasKind .uniqueIdentified = true) {word : String}
    (variant : word ∈ if entity.isSubObject then ["AndShowParent"]
      else if entity.isLink then ["LinkAndShowLeft", "LinkAndShowRight"]
      else if entity.isAutolink then ["AutolinkAndShowObject"]
      else [""]) :
    ∃ operation ∈ surface.operations, operation.name =
      "Delete" ++ (word ++ entity.pascalName) := by
  have inRules : DerivationRule.deletion ∈ DerivationRule.standard := by decide
  obtain ⟨contributions, outcome⟩ := exists_contributions_of_derive derived inRules identified
  obtain ⟨operations, family, rfl⟩ := Derivation.deletionFamily_of_deletion outcome
  obtain ⟨operation, among, named⟩ := family.exists_operation_of_word variant
  exact ⟨operation, (mem_operations_iff derived).mpr
    ⟨.deletion, inRules, identified, _, outcome, List.mem_map_of_mem among⟩, named⟩

/-- The operations that are called like a method belong to every surface of an entity that has
them. -/
theorem exists_operation_of_mem_words {family : OperationFamily} {word : String}
    (mem : word ∈ family.words entity) :
    ∃ operation ∈ surface.operations, operation.name =
      family.verb ++ (word ++ entity.pascalName) := by
  have contributes (rule : DerivationRule) (verb : String) (split : verb = family.verb ++ word)
      (applies : rule.appliesTo entity = true) {contributed : List Contribution}
      (outcome : rule.contributions entity = .ok contributed)
      (among : verb ++ entity.pascalName ∈
        (contributed.filterMap Contribution.operation?).map Operation.name) :
      ∃ operation ∈ surface.operations, operation.name =
        family.verb ++ (word ++ entity.pascalName) := by
    obtain ⟨operation, inSurface, named⟩ :=
      exists_operation_of_contributions derived applies outcome among
    exact ⟨operation, inSurface, by rw [named, split, String.append_assoc]⟩
  cases family
  case insert =>
    obtain ⟨scheduled, rfl⟩ := mem_ite_singleton_iff.mp mem
    refine contributes .schedule "InsertAfter" (by decide) scheduled rfl ?_
    simp [Derivation.planning, Contribution.operation?]
  case update =>
    obtain ⟨shown, rfl⟩ := mem_ite_singleton_iff.mp mem
    refine contributes .showing "Update" (by decide) shown rfl ?_
    simp [Derivation.showing, Derivation.withPage, Contribution.operation?]
  case delete =>
    rcases List.mem_append.mp mem with role | attachment
    · obtain ⟨identified, variant⟩ := List.mem_ite_nil_right.mp role
      exact exists_deletion derived identified variant
    · obtain ⟨attachable, rfl⟩ := mem_ite_singleton_iff.mp attachment
      refine contributes .content "DeleteAttachment" (by decide)
        (by simp [DerivationRule.appliesTo, attachable]) rfl ?_
      simp [Derivation.attachments, attachable, Contribution.operation?]
  case renumber =>
    obtain ⟨manual, rfl⟩ := mem_ite_singleton_iff.mp mem
    obtain ⟨numbered, first, -⟩ := (Option.any_eq_true _ _).mp manual
    refine contributes .numbering "Renumber" (by decide) manual rfl ?_
    simp [Derivation.renumbering, first, Contribution.operation?]
  case reschedule =>
    rcases List.mem_append.mp mem with slot | plan
    · obtain ⟨slotted, rfl⟩ := mem_ite_singleton_iff.mp slot
      refine contributes .timeSlot "Reschedule" (by decide) slotted rfl ?_
      simp [Derivation.rescheduling, Contribution.operation?]
    · obtain ⟨scheduled, rfl⟩ := mem_ite_singleton_iff.mp plan
      refine contributes .schedule "RescheduleWithPlan" (by decide) scheduled rfl ?_
      simp [Derivation.planning, Contribution.operation?]
  case reassign =>
    obtain ⟨flowing, rfl⟩ := mem_ite_singleton_iff.mp mem
    refine contributes .workflow "ReassignTask" (by decide) flowing rfl ?_
    simp [Derivation.tasks, Contribution.operation?]
  all_goals exact absurd mem List.not_mem_nil

/-- Links, children, images and previews have their operations in every derived surface, and so have
the methods that verbs are called like. -/
theorem exists_operation_of_mem_endings {family : OperationFamily}
    (always : family ∈ OperationFamily.telling) {ending : String}
    (mem : ending ∈ family.endings entity) :
    ∃ operation ∈ surface.operations, operation.name = family.verb ++ ending := by
  have contributes (use : ContentUse) {property : Property}
      (asks : property ∈ entity.propertiesOf use.tag) :
      use.operation entity property.suffix ∈ surface.operations :=
    (mem_operations_iff derived).mpr (ContentUse.contributed_operation asks)
  cases family
  case changeParent =>
    obtain ⟨_, linked, rfl⟩ := List.mem_map.mp mem
    obtain ⟨link, inLinks, rfl⟩ := List.mem_map.mp linked
    simpa only [OperationFamily.verb, String.append_assoc] using exists_changeParent derived inLinks
  case loadChildren =>
    obtain ⟨child, among, rfl⟩ := List.mem_map.mp mem
    exact exists_bulkLoad derived among
  case setImage =>
    obtain ⟨image, inImages, rfl⟩ := List.mem_map.mp mem
    exact ⟨_, contributes .setImage inImages, rfl⟩
  case preview =>
    rcases List.mem_append.mp mem with plan | content
    · obtain ⟨scheduled, rfl⟩ := mem_ite_singleton_iff.mp plan
      rw [OperationFamily.verb, ← String.append_assoc]
      exact exists_previewPlan derived scheduled
    · obtain ⟨printOut, inPrintOuts, rfl⟩ := List.mem_map.mp content
      refine ⟨_, contributes .preview inPrintOuts, ?_⟩
      exact String.append_assoc
  case insert | update | delete | renumber | reschedule | reassign =>
    obtain ⟨word, inWords, rfl⟩ := List.mem_map.mp mem
    exact exists_operation_of_mem_words derived inWords
  all_goals simp [OperationFamily.telling] at always

/-- The operations have functions with different names if and only if snake case tells apart what
they are named after. -/
theorem nodup_functions_iff (capitalized : entity.IsCapitalized) :
    (surface.operations.map fun operation => snakeCase operation.name).Nodup ↔
      entity.OperationsApart := by
  have distinct := (records_of_derive derived).operations.distinct
  constructor
  · intro functions
    apply operationsApart_of_endings capitalized
    intro family always first one second other same
    obtain ⟨operation, mem, named⟩ := exists_operation_of_mem_endings derived always one
    obtain ⟨otherOperation, otherMem, otherNamed⟩ :=
      exists_operation_of_mem_endings derived always other
    have equal : operation = otherOperation := by
      apply List.inj_on_of_nodup_map functions mem otherMem
      rw [named, otherNamed, snakeCase_family capitalized one,
        snakeCase_family capitalized other, same]
    rw [equal, otherNamed, String.append_right_inj] at named
    exact named.symm
  · intro apart
    refine (distinct.of_map _).map_on fun operation mem other otherMem same => ?_
    have names := (namesOperation_of_mem derived mem).eq_of_snakeCase capitalized apart
      (namesOperation_of_mem derived otherMem) same
    exact List.inj_on_of_nodup_map distinct mem otherMem names

end Surface

end EntitySurface
