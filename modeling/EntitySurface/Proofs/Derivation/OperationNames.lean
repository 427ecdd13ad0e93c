import EntitySurface.Proofs.Derivation.Deletion
import EntitySurface.Proofs.Derivation.Inputs
import EntitySurface.Proofs.Entity.WellFormed
import EntitySurface.Proofs.Text.Capitalized

/-!
# How operations are named

The name of an operation is a verb and an ending. Most verbs come with the name of the entity alone.
The other ones make families, whose members are told apart by further words or by the names of
links, children, images and print-outs. In snake case the verbs stay apart, so two operations of one
entity can only become the same when they are members of one family. The verbs that are called like
a data access method have families of their own, which say when an entity has which of their
operations.
-/

namespace EntitySurface

/-- The operations with one verb, of which an entity can have several. -/
inductive OperationFamily where
  | changeParent
  | massUpdate
  | createLink
  | loadChildren
  | exportChildren
  | setImage
  | getImage
  | preview
  | insert
  | update
  | delete
  | renumber
  | reschedule
  | reassign
  deriving DecidableEq

namespace OperationFamily

/-- All families. -/
def all : List OperationFamily := [
  changeParent, massUpdate, createLink, loadChildren, exportChildren, setImage, getImage, preview,
  insert, update, delete, renumber, reschedule, reassign]

/-- Families whose members all belong to every surface. Together they have a member for each link,
child, image and preview, and all operations whose verb begins with the name of a method. -/
def telling : List OperationFamily := [
  changeParent, loadChildren, setImage, preview, insert, update, delete, renumber, reschedule,
  reassign]

/-- The families whose verb is the name of a data access method. -/
def calledLikeMethods : List OperationFamily := [
  preview, insert, update, delete, renumber, reschedule, reassign]

/-- The verb of all operations of a family. -/
def verb : OperationFamily → String
  | changeParent => "ChangeParent"
  | massUpdate => "MassUpdate"
  | createLink => "CreateLink"
  | loadChildren => "BulkLoad"
  | exportChildren => "Export"
  | setImage => "SetImage"
  | getImage => "GetImage"
  | preview => "Preview"
  | insert => "Insert"
  | update => "Update"
  | delete => "Delete"
  | renumber => "Renumber"
  | reschedule => "Reschedule"
  | reassign => "Reassign"

end OperationFamily

namespace Operation

/-- The verbs that come with the name of the entity alone. -/
def plainVerbs : List String := [
  "PrepareStandardCreate", "StandardCreate", "Show", "PrepareUpdate", "FlatFileLoad",
  "FlatFileSample", "Search", "ShowHistory", "NewVersion", "ForceVersionAsLast", "ChangeState",
  "SetTargetDate", "ShowCockpit", "SearchRightWithParent", "SearchLeftFor", "SearchRightFor",
  "CreateAutolink", "ShowAutolinkTree", "AddAttachment", "DownloadAttachment"]

/-- The verbs of all operations. -/
def verbs : List String :=
  plainVerbs ++ OperationFamily.all.map OperationFamily.verb

end Operation

namespace Entity

variable (entity : Entity)

/-- The names of the parent links, in Pascal case. -/
def linkNames : List String :=
  entity.parentLinks.map fun link => Text.pascalCase link.name

/-- The names of the children in the collections, in Pascal case. -/
def childNames : List String :=
  (entity.propertiesOf .hasChildren).filterMap fun collection =>
    match collection.kind with
    | .hasChildren child _ => some (Text.pascalCase child.name)
    | _ => none

/-- The ends of the names of the operations on images. -/
def imageNames : List String :=
  (entity.propertiesOf .imageContent).map fun image => image.suffix ++ entity.pascalName

/-- The ends of the names of the previews, of the plan and of the print-outs. -/
def previewNames : List String :=
  (if entity.hasKind .schedule then ["Plan" ++ entity.pascalName] else []) ++
    (entity.propertiesOf .printOut).map fun printOut => printOut.suffix ++ entity.pascalName

end Entity

/-- The words between the verb and the name of the entity in the operations that are called like a
method; the operation without such words is listed with none. Deletion depends on the structural
role of the entity. -/
def OperationFamily.words (entity : Entity) : OperationFamily → List String
  | insert => if entity.hasKind .schedule then ["After"] else []
  | update => if entity.hasShowSurface then [""] else []
  | delete =>
      (if entity.hasKind .uniqueIdentified then
        if entity.isSubObject then ["AndShowParent"]
        else if entity.isLink then ["LinkAndShowLeft", "LinkAndShowRight"]
        else if entity.isAutolink then ["AutolinkAndShowObject"]
        else [""]
      else []) ++ if entity.hasKind .fileContent then ["Attachment"] else []
  | renumber =>
      if (entity.firstOf? .numbered).any fun numbered => !numbered.isAutomaticNumbering then [""]
      else []
  | reschedule =>
      (if entity.hasKind .timeSlot then [""] else []) ++
        if entity.hasKind .schedule then ["WithPlan"] else []
  | reassign => if entity.hasKind .simpleTaskWorkflow then ["Task"] else []
  | _ => []

/-- What may follow the verb of a family. -/
def OperationFamily.endings (entity : Entity) : OperationFamily → List String
  | changeParent => entity.linkNames.map fun link => entity.pascalName ++ "For" ++ link
  | massUpdate =>
      entity.pascalName :: entity.linkNames.map fun link => entity.pascalName ++ "With" ++ link
  | createLink =>
      [entity.pascalName, entity.pascalName ++ "WithRight", entity.pascalName ++ "AndShowRight"]
  | loadChildren | exportChildren =>
      entity.childNames.map fun child => child ++ "Under" ++ entity.pascalName
  | setImage | getImage => entity.imageNames
  | preview => entity.previewNames
  | family => (family.words entity).map fun word => word ++ entity.pascalName

namespace Entity

/-- The entity can have an operation of this name. -/
inductive NamesOperation (entity : Entity) : String → Prop where
  | plain {verb : String} (listed : verb ∈ Operation.plainVerbs) :
      NamesOperation entity (verb ++ entity.pascalName)
  | family (family : OperationFamily) {ending : String} (mem : ending ∈ family.endings entity) :
      NamesOperation entity (family.verb ++ ending)

/-- A verb of several words is the verb of its family with words behind it. -/
theorem NamesOperation.worded {entity : Entity} (family : OperationFamily) (word : String)
    {verb : String} (split : verb = family.verb ++ word) (mem : word ∈ family.words entity) :
    entity.NamesOperation (verb ++ entity.pascalName) := by
  have ending : word ++ entity.pascalName ∈ family.endings entity := by
    cases family <;> first | exact absurd mem List.not_mem_nil | exact List.mem_map_of_mem mem
  rw [split, String.append_assoc]
  exact .family family ending

/-- A contribution to the surface of the entity, named as its operations are. -/
def Names (entity : Entity) : Contribution → Prop
  | .operation added => entity.NamesOperation added.name
  | .page _ | .menuEntry _ | .searchPlan _ => True

end Entity

/-! ## The rules -/

namespace Derivation

open Entity (Names NamesOperation)

variable {entity : Entity}

theorem names_showing (shown : entity.hasShowSurface = true) :
    ∀ contribution ∈ showing entity, entity.Names contribution := by
  have update : entity.NamesOperation ("Update" ++ entity.pascalName) :=
    .worded .update "" (by decide) (by simp [OperationFamily.words, shown])
  unfold showing
  rw [List.forall_mem_append]
  constructor
  · simp (disch := decide) [withPage, Names, NamesOperation.plain, update]
    exact .family .massUpdate List.mem_cons_self
  · split <;> simp [Names]

theorem names_history : ∀ contribution ∈ history entity, entity.Names contribution := by
  unfold history
  rw [List.forall_mem_append]
  constructor
  · simp (disch := decide) [withPage, Names, NamesOperation.plain]
  · split
    · simp (disch := decide) [Names, NamesOperation.plain]
    · exact List.forall_mem_nil _

theorem names_deletion (identified : entity.hasKind .uniqueIdentified = true)
    {contributed : List Contribution} (outcome : deletion entity = .ok contributed) :
    ∀ contribution ∈ contributed, entity.Names contribution := by
  rcases deletionFamily_of_deletion outcome with ⟨operations, family, rfl⟩
  rw [List.forall_mem_map]
  simp only [Names]
  cases family with
  | subObject found =>
      have subObject : entity.isSubObject = true := by simp [Entity.isSubObject, found]
      refine List.forall_mem_singleton.mpr (.worded .delete "AndShowParent" ?_ ?_)
      · decide
      · simp [OperationFamily.words, identified, subObject]
  | link independent linked =>
      refine List.forall_mem_cons.mpr ⟨.worded .delete "LinkAndShowLeft" ?_ ?_,
        List.forall_mem_singleton.mpr (.worded .delete "LinkAndShowRight" ?_ ?_)⟩
      · decide
      · simp [OperationFamily.words, identified, independent, linked]
      · decide
      · simp [OperationFamily.words, identified, independent, linked]
  | autolink independent unlinked joined =>
      refine List.forall_mem_singleton.mpr
        (.worded .delete "AutolinkAndShowObject" ?_ ?_)
      · decide
      · simp [OperationFamily.words, identified, independent, unlinked, joined]
  | plain independent unlinked single =>
      refine List.forall_mem_singleton.mpr (.worded .delete "" ?_ ?_)
      · decide
      · simp [OperationFamily.words, identified, independent, unlinked, single]

theorem names_parentChange {link : Property} (mem : link ∈ entity.parentLinks) :
    ∀ contribution ∈ parentChange entity link, entity.Names contribution := by
  have linked : Text.pascalCase link.name ∈ entity.linkNames := List.mem_map_of_mem mem
  unfold parentChange
  split
  · simp only [List.forall_mem_cons, Names, Entity.guardedOperation_name, String.append_assoc]
    refine ⟨.family .changeParent ?_, .family .massUpdate ?_, List.forall_mem_nil _⟩
    · exact List.mem_map.mpr ⟨_, linked, String.append_assoc⟩
    · exact List.mem_cons_of_mem _ (List.mem_map.mpr ⟨_, linked, String.append_assoc⟩)
  · exact List.forall_mem_nil _

theorem names_constraintLookups (left right : EntityKey) (rule : BusinessRule) :
    ∀ contribution ∈ constraintLookups entity left right rule, entity.Names contribution := by
  unfold constraintLookups
  cases rule.restrictsLeft <;> cases rule.restrictsRight <;>
    simp (disch := decide) [Names, NamesOperation.plain]

theorem names_linking : ∀ contribution ∈ linking entity, entity.Names contribution := by
  unfold linking
  split
  · split
    · rw [List.forall_mem_append, List.forall_mem_flatMap]
      refine ⟨?_, fun rule _ => names_constraintLookups _ _ rule⟩
      simp only [List.forall_mem_cons, Names, Entity.guardedOperation_name, String.append_assoc]
      refine ⟨.family .createLink ?_, .family .createLink ?_, .family .createLink ?_,
        List.forall_mem_nil _⟩
      all_goals simp [OperationFamily.endings]
    · exact List.forall_mem_nil _
  · exact List.forall_mem_nil _

theorem names_autolinking : ∀ contribution ∈ autolinking entity, entity.Names contribution := by
  unfold autolinking
  split
  · split
    · split <;> simp (disch := decide) [Names, NamesOperation.plain]
    · exact List.forall_mem_nil _
  · exact List.forall_mem_nil _

theorem names_childCollections :
    ∀ contribution ∈ childCollections entity, entity.Names contribution := by
  unfold childCollections
  rw [List.forall_mem_flatMap]
  intro collection mem
  split
  · next child link kind =>
    have named : Text.pascalCase child.name ∈ entity.childNames :=
      List.mem_filterMap.mpr ⟨collection, mem, by rw [kind]⟩
    simp only [List.forall_mem_cons, Names, Entity.guardedOperation_name]
    exact ⟨.family .loadChildren (List.mem_map_of_mem named),
      .family .exportChildren (List.mem_map_of_mem named), List.forall_mem_nil _⟩
  · exact List.forall_mem_nil _

theorem names_images : ∀ contribution ∈ images entity, entity.Names contribution := by
  unfold images
  rw [List.forall_mem_flatMap]
  intro image mem
  simp only [List.forall_mem_cons, Names, Entity.guardedOperation_name]
  exact ⟨.family .setImage (List.mem_map_of_mem mem),
    .family .getImage (List.mem_map_of_mem mem), List.forall_mem_nil _⟩

theorem names_attachments : ∀ contribution ∈ attachments entity, entity.Names contribution := by
  unfold attachments
  split
  · next attachable =>
    have delete : entity.NamesOperation ("DeleteAttachment" ++ entity.pascalName) :=
      .worded .delete "Attachment" (by decide) (by simp [OperationFamily.words, attachable])
    simp (disch := decide) [Names, NamesOperation.plain, delete]
  · exact List.forall_mem_nil _

theorem names_printOuts : ∀ contribution ∈ printOuts entity, entity.Names contribution := by
  rw [printOuts, List.forall_mem_map]
  intro printOut mem
  simp only [Names, Entity.guardedOperation_name, String.append_assoc]
  exact .family .preview (List.mem_append_right _ (List.mem_map_of_mem mem))

theorem names_planning (scheduled : entity.hasKind .schedule = true) :
    ∀ contribution ∈ planning entity, entity.Names contribution := by
  have plan : entity.NamesOperation ("PreviewPlan" ++ entity.pascalName) := by
    have ending : "Plan" ++ entity.pascalName ∈ OperationFamily.preview.endings entity :=
      List.mem_append_left _ (by simp [scheduled])
    rw [show "PreviewPlan" = "Preview" ++ "Plan" from rfl, String.append_assoc]
    exact .family .preview ending
  have reschedule : entity.NamesOperation ("RescheduleWithPlan" ++ entity.pascalName) :=
    .worded .reschedule "WithPlan" (by decide) (by simp [OperationFamily.words, scheduled])
  have insert : entity.NamesOperation ("InsertAfter" ++ entity.pascalName) :=
    .worded .insert "After" (by decide) (by simp [OperationFamily.words, scheduled])
  simp [planning, Names, plan, reschedule, insert]

theorem names_renumbering (manual : DerivationRule.numbering.appliesTo entity = true) :
    ∀ contribution ∈ renumbering entity, entity.Names contribution := by
  have renumber : entity.NamesOperation ("Renumber" ++ entity.pascalName) :=
    .worded .renumber "" (by decide) (List.mem_ite_nil_right.mpr ⟨manual, List.mem_cons_self⟩)
  unfold renumbering
  split
  · simp [Names, renumber]
  · exact List.forall_mem_nil _

theorem names_rescheduling (slotted : entity.hasKind .timeSlot = true) :
    ∀ contribution ∈ rescheduling entity, entity.Names contribution := by
  have reschedule : entity.NamesOperation ("Reschedule" ++ entity.pascalName) :=
    .worded .reschedule "" (by decide) (by simp [OperationFamily.words, slotted])
  simp [rescheduling, Names, reschedule]

theorem names_tasks (flowing : entity.hasKind .simpleTaskWorkflow = true) :
    ∀ contribution ∈ tasks entity, entity.Names contribution := by
  have reassign : entity.NamesOperation ("ReassignTask" ++ entity.pascalName) :=
    .worded .reassign "Task" (by decide) (by simp [OperationFamily.words, flowing])
  simp (disch := decide) [tasks, Names, NamesOperation.plain, reassign]

end Derivation

open EntitySurface.Derivation in
/-- What a rule contributes is named as the operations of the entity are. -/
theorem DerivationRule.names_of_contributions {rule : DerivationRule} {entity : Entity}
    {contributed : List Contribution} (applies : rule.appliesTo entity = true)
    (outcome : rule.contributions entity = .ok contributed) :
    ∀ contribution ∈ contributed, entity.Names contribution := by
  cases rule
  case deletion => exact names_deletion applies outcome
  case targetDate =>
    simp only [contributions, Derivation.targetDate] at outcome
    split at outcome
    · cases outcome
      simp (disch := decide) [Entity.Names, Entity.NamesOperation.plain]
    · contradiction
  case parentLinks =>
    simp only [contributions, parentChanges] at outcome
    split at outcome
    · contradiction
    · cases outcome
      exact List.forall_mem_flatMap.mpr fun link => names_parentChange
  all_goals cases outcome
  case showing => exact names_showing applies
  case history => exact names_history
  case link => exact names_linking
  case autolink => exact names_autolinking
  case children => exact names_childCollections
  case content => exact List.forall_mem_append.mpr ⟨names_images, names_attachments⟩
  case printOut => exact names_printOuts
  case schedule => exact names_planning applies
  case numbering => exact names_renumbering applies
  case timeSlot => exact names_rescheduling applies
  case workflow => exact names_tasks applies
  case lifecycle =>
    unfold stateChange
    split
    · simp (disch := decide) [Entity.Names, Entity.NamesOperation.plain]
    · exact List.forall_mem_nil _
  case create =>
    simp (disch := decide) [creation, withPage, Entity.Names, Entity.NamesOperation.plain]

end EntitySurface
