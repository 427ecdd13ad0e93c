import EntitySurface.Schema.Basic

/-!
# Composing a schema

The steps by which a schema grows, and the final step that freezes it. A step reads and changes the
schema and may fail; what a failed step has changed before it failed stays changed, except that a
failed attachment puts the entities back as they were.

Attaching a property stores it on its entity and then works off the companions that it implies, in
the order in which they were implied.
-/

namespace EntitySurface

/-- A step of composition. -/
abbrev Composer := EStateM Fault Schema

namespace Composer

/-- The most attachments that one cascade may process. -/
def maxCascadeSteps : Nat := 1024

/-- Fail with the fault that is found in the schema, if there is one. -/
def check (fault? : Schema → Option Fault) : Composer Unit := fun schema =>
  match fault? schema with
  | some fault => .error fault schema
  | none => .ok () schema

/-- Refuse the step once the schema is finalized. -/
def ensureComposing (step : CompositionStep) : Composer Unit :=
  check fun schema => if schema.isFinalized then some (.schemaFrozen step) else none

/-- The entity of a given key. -/
def requireEntity (key : EntityKey) : Composer Entity := fun schema =>
  match schema.entity? key with
  | some entity => .ok entity schema
  | none => .error (.entityNotFound key) schema

/-- Change the entity of a given key by a checked addition. -/
def modifyEntity (key : EntityKey) (change : Entity → Except Fault Entity) : Composer Unit := do
  let entity ← requireEntity key
  match change entity with
  | .error fault => throw fault
  | .ok changed => modify fun schema => schema.replace key changed

/-- Run a change of the catalog. -/
def onCatalog (change : EStateM Fault Catalog Unit) : Composer Unit := fun schema =>
  match change schema.catalog with
  | .ok () catalog => .ok () { schema with catalog }
  | .error fault catalog => .error fault { schema with catalog }

/-- Refuse a name that is no identifier. -/
def requireIdentifier (name : String) : Composer Unit :=
  check fun _ => (Name.identifierProblem? name).map fun problem => .invalidName name problem

/-- Refuse a name that is no namespace. -/
def requireNamespace (space : String) : Composer Unit :=
  check fun _ => (Name.namespaceProblem? space).map fun problem => .invalidName space problem

/-- Refuse a category that is not registered, if one is needed at all; `owner` is the field or
element that needs it. -/
def requireCategory (entity : EntityKey) (owner : String) (category : Option ChoiceKey) :
    Composer Unit :=
  check fun schema =>
    (category.filter fun key => (schema.catalog.category? key).isNone).map fun key =>
      .unresolvedBinding entity owner (.choice key)

/-! ## Categories, entities and fields -/

/-- Register a category together with its namespace. -/
def registerCategory (category : ChoiceCategory) : Composer Unit := do
  ensureComposing .registerCategory
  onCatalog (Catalog.registerCategory category)

/-- Declare an entity; its namespace is registered on the way. -/
def newEntity (space name label : String) : Composer EntityKey := do
  ensureComposing .newEntity
  requireNamespace space
  requireIdentifier name
  let key : EntityKey := ⟨space, name⟩
  check fun schema =>
    if schema.contains key then some (.duplicateName .entities key.text) else none
  onCatalog (Catalog.registerNamespace space)
  modify fun schema => schema.declare key label
  pure key

/-- Replace the description of an entity. -/
def describeEntity (entity : EntityKey) (text : String) : Composer Unit := do
  ensureComposing .describeEntity
  modifyEntity entity fun found => .ok { found with description := some text }

/-- The primary widget of a searchable field. -/
def fieldWidget (field : Field) : SearchWidget :=
  { element := .field field.name, kind := .forType field.type, isPrimary := true
    label := field.label }

/-- Attach a field; a searchable field gets a primary widget. -/
def attachField (entity : EntityKey) (field : Field) : Composer Unit := do
  ensureComposing .attachField
  check fun _ => field.problem?.map fun problem => .invalidName field.name problem
  requireCategory entity field.name field.type.category?
  modifyEntity entity fun found => found.addField field
  if field.searchable then
    modifyEntity entity fun found => found.addWidget (fieldWidget field)
  else pure ()

/-! ## Properties -/

/-- An attachment that waits to be processed. -/
structure Pending where
  target : EntityKey
  property : Property
  visibility : Visibility
  /-- The property is implied by another one. -/
  isCompanion : Bool

namespace Pending

/-- The property as its entity stores it. -/
def bound (pending : Pending) : Property :=
  { pending.property with owner := some pending.target, visibility := pending.visibility }

/-- The attachments of the companions, in the order in which they are implied. -/
def implied (pending : Pending) : List Pending :=
  (pending.property.kind.companions pending.target pending.property.name).map fun companion =>
    { target := companion.target, property := companion.property, visibility := pending.visibility
      isCompanion := true }

end Pending

/-- Why a rule does not fit its property. -/
def ruleFault? (entity : EntityKey) (property : Property) (rule : BusinessRule) : Option Fault :=
  if !rule.accepts property.tag then
    some (.invalidBusinessRule entity property.name rule (.wrongKind rule.appliesTo))
  else if rule.states? == some [] then
    some (.invalidBusinessRule entity property.name rule .noStates)
  else none

/-- The first rule that does not fit, or else a sub-object rule that is given twice. -/
def rulesFault? (entity : EntityKey) (property : Property) : Option Fault :=
  match property.rules.findSome? (ruleFault? entity property) with
  | some fault => some fault
  | none =>
      if 1 < property.rules.count .subObject then
        some (.invalidBusinessRule entity property.name .subObject .repeated)
      else none

/-- A parameter that names no entity or category of the schema. -/
def isUnresolved (schema : Schema) (binding : Binding) : Bool :=
  match binding.target with
  | .entity key => !schema.contains key
  | .choice key => (schema.catalog.category? key).isNone

/-- The first parameter of a property that is not there. The dependency of a schedule is usually
declared later and is checked when the schema is finished. -/
def bindingFault? (schema : Schema) (entity : EntityKey) (property : Property) : Option Fault :=
  match property.kind with
  | .schedule _ => none
  | kind =>
      (kind.bindings.find? (isUnresolved schema)).map fun binding =>
        .unresolvedBinding entity property.name binding.target

/-- A property that is bound to an entity already cannot be given to another. -/
def ownerFault? (entity : EntityKey) (property : Property) : Option Fault :=
  property.owner.map fun previous => .ownershipViolation entity property.name previous

/-- The primary widgets that an active property brings along. -/
def propertyWidgets (property : Property) : List SearchWidget :=
  if property.isLegacy then []
  else (property.elements.filter StoredElement.searchable).map fun element =>
    { element := .property property.name element.name, kind := .forType element.type
      isPrimary := true, label := element.label }

/-- The entity that an attachment is for. -/
def requireTarget (pending : Pending) : Composer Entity := fun schema =>
  match schema.entity? pending.target with
  | some entity => .ok entity schema
  | none =>
      .error (.unresolvedBinding pending.target pending.property.name (.entity pending.target))
        schema

/-- Check a property, store it on its entity and list the attachments it implies. -/
def store (pending : Pending) : Composer (List Pending) := do
  requireIdentifier pending.property.name
  check fun _ => rulesFault? pending.target pending.property
  check fun schema => bindingFault? schema pending.target pending.property
  check fun _ => ownerFault? pending.target pending.property
  modifyEntity pending.target fun found => found.addProperty pending.bound
  (propertyWidgets pending.bound).forM fun widget =>
    modifyEntity pending.target fun found => found.addWidget widget
  pure pending.implied

/-- Process one attachment. A companion that is already there is skipped. -/
def process (pending : Pending) : Composer (List Pending) := do
  let owner ← requireTarget pending
  match pending.isCompanion, owner.property? pending.property.name with
  | true, some existing =>
      if existing.kind == pending.property.kind then pure []
      else throw (.duplicateName (.properties pending.target) pending.property.name)
  | _, _ => store pending

/-- Process attachments first in, first out, at most `steps` of them. -/
def drain : (steps : Nat) → List Pending → Composer Unit
  | _, [] => pure ()
  | 0, pending :: _ =>
      throw (.cyclicCascade (maxCascadeSteps + 1) pending.target pending.property.name)
  | steps + 1, pending :: rest => do
      let implied ← process pending
      drain steps (rest ++ implied)

/-- Run a step; if it fails, put the entities back as they were. -/
def restoring (step : Composer Unit) : Composer Unit := fun schema =>
  match step schema with
  | .ok () changed => .ok () changed
  | .error fault changed => .error fault { changed with entities := schema.entities }

/-- Attach a property and all it implies. A failed attachment leaves the entities as they were. -/
def attach (entity : EntityKey) (property : Property) (visibility : Visibility) :
    Composer Unit := do
  ensureComposing .attachProperty
  let _ ← requireEntity entity
  restoring <| drain maxCascadeSteps
    [{ target := entity, property, visibility, isCompanion := false }]

/-- Add a rule to an attached property. -/
def attachRule (entity : EntityKey) (property : String) (rule : BusinessRule) :
    Composer Unit := do
  ensureComposing .attachRule
  let found ← requireEntity entity
  match found.property? property with
  | none => throw (.propertyNotFound entity property)
  | some attached =>
      check fun _ => ruleFault? entity attached rule
      modifyEntity entity fun found => found.addRule property rule

/-- Declare a hook of a stored property; its target is checked when the schema is finished. -/
def declareHook (entity : EntityKey) (declaring method origin : String) (phase : HookPhase) :
    Composer Unit := do
  ensureComposing .declareHook
  modifyEntity entity fun found => found.addHook
    { declaring, method, origin, phase, label := Text.lowercase declaring ++ " processing" }

/-! ## Search, display and loading -/

/-- The kind of a declared widget: a choice of a given category, or what fits the type. -/
def declaredKind (type : FieldType) : (category : Option ChoiceKey) → WidgetKind
  | some category => .choice category
  | none => .forType type

/-- A choice needs an element that holds choices or text. -/
def choiceFault? (element : ElementRef) (type : FieldType) : WidgetKind → Option Fault
  | .choice _ =>
      if type.isChoice || type.isTextual then none
      else some (.invalidSearchInput element.text (.choiceOnElement type))
  | _ => none

/-- Declare a search widget; a given category makes it a choice. -/
def declareWidget (entity : EntityKey) (element : ElementRef) (isPrimary : Bool)
    (category : Option ChoiceKey) : Composer Unit := do
  ensureComposing .declareWidget
  let found ← requireEntity entity
  match found.resolveElement? element with
  | none => throw (.unknownSearchElement entity element)
  | some (type, label) =>
      requireCategory entity element.column category
      check fun _ => choiceFault? element type (declaredKind type category)
      modifyEntity entity fun found =>
        found.addWidget { element, kind := declaredKind type category, isPrimary, label }

/-- Add a tab to the display page of an entity. -/
def addTab (entity : EntityKey) (tab : DisplayTab) : Composer Unit := do
  ensureComposing .addTab
  requireIdentifier tab.name
  modifyEntity entity fun found => found.addTab tab

/-- Add a loader alias; its column is checked when the schema is finished. -/
def addAlias (entity : EntityKey) (added : LoaderAlias) : Composer Unit := do
  ensureComposing .addAlias
  modifyEntity entity fun found => found.addAlias added

/-! ## Finishing -/

/-- The entities that a property refers to without having been checked when it was attached. -/
def deferredBindings (property : Property) : List EntityKey :=
  (match property.kind with
    | .schedule dependency => [dependency]
    | _ => []) ++
  property.rules.filterMap fun rule =>
    match rule with
    | .sameParent parent => some parent
    | _ => none

/-- The first deferred binding that names no entity. -/
def unresolvedBinding? (schema : Schema) : Option Fault :=
  schema.entities.findSome? fun entity =>
    entity.properties.findSome? fun property =>
      ((deferredBindings property).find? fun key => !schema.contains key).map fun key =>
        .unresolvedBinding entity.key property.name (.entity key)

/-- Finalize entities in order up to the first fault; the entities after it stay as they are. -/
def finalizeEach : List Entity → List Entity × Option Fault
  | [] => ([], none)
  | entity :: rest =>
      match entity.finalize with
      | (changed, some fault) => (changed :: rest, some fault)
      | (changed, none) =>
          let (others, fault?) := finalizeEach rest
          (changed :: others, fault?)

/-- Finalize the entities of the schema; on a fault those before it stay finalized. -/
def finalizeEntities : Composer Unit := fun schema =>
  match finalizeEach schema.entities with
  | (entities, some fault) => .error fault { schema with entities }
  | (entities, none) => .ok () { schema with entities }

/-- Finalize every entity and freeze the schema. -/
def finish : Composer Unit := do
  ensureComposing .finish
  check unresolvedBinding?
  finalizeEntities
  modify fun schema => { schema with phase := .finalized }

end Composer

end EntitySurface
