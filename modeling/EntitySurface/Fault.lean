import EntitySurface.Calendar.Date
import EntitySurface.Name
import EntitySurface.Property.Kind
import EntitySurface.Property.Rule
import EntitySurface.Search.Input
import EntitySurface.Search.Widget

/-!
# Faults

Everything that can go wrong while a schema is composed, finalized, derived, searched, emitted or
written, as causes. The wording of each cause is in `Fault.message` alone.
-/

namespace EntitySurface

/-- The set of names within which a name has to be unique. -/
inductive NameScope where
  | entities
  | categories
  | codes (category : ChoiceKey)
  | columns (entity : EntityKey)
  | properties (entity : EntityKey)
  | widgets (entity : EntityKey)
  | tabs (entity : EntityKey)
  | aliases (entity : EntityKey)
  deriving DecidableEq

/-- The scope as messages name it. -/
def NameScope.text : NameScope → String
  | entities => "entities"
  | categories => "choice categories"
  | codes category => "choice category '" ++ category.text ++ "'"
  | columns entity => "entity '" ++ entity.text ++ "' columns"
  | properties entity => "entity '" ++ entity.text ++ "' properties"
  | widgets entity => "entity '" ++ entity.text ++ "' search widgets"
  | tabs entity => "entity '" ++ entity.text ++ "' tabs"
  | aliases entity => "entity '" ++ entity.text ++ "' loader aliases"

/-- What a property needs beside it. -/
inductive Requirement where
  | sibling (tag : PropertyTag)
  | activeLifecycle
  deriving DecidableEq

/-- What is needed, as messages name it. -/
def Requirement.text : Requirement → String
  | sibling tag => "a " ++ tag.label ++ " property"
  | activeLifecycle => "an active Lifecycle property"

/-- The steps that compose a schema. -/
inductive CompositionStep where
  | registerCategory
  | newEntity
  | describeEntity
  | attachField
  | attachProperty
  | attachRule
  | declareHook
  | declareWidget
  | addTab
  | addAlias
  | finish
  deriving DecidableEq

/-- The step as messages name it. -/
def CompositionStep.label : CompositionStep → String
  | registerCategory => "register_choice_category"
  | newEntity => "new_entity"
  | describeEntity => "describe_entity"
  | attachField => "attach_field"
  | attachProperty => "attach_property"
  | attachRule => "attach_business_rule"
  | declareHook => "declare_hook"
  | declareWidget => "declare_search_widget"
  | addTab => "add_display_tab"
  | addAlias => "add_loader_alias"
  | finish => "finish"

/-- Why a rule cannot stand on a property. -/
inductive RuleProblem where
  | wrongKind (accepted : PropertyTag)
  | noStates
  | repeated
  deriving DecidableEq

/-- What is wrong with the rule, as a message ends. -/
def RuleProblem.message : RuleProblem → String
  | wrongKind accepted => "only applies to " ++ accepted.label ++ " properties"
  | noStates => "needs at least one state"
  | repeated => "declared more than once"

/-- The roles of which an entity may play only one. -/
inductive StructuralRole where
  | subObject
  | link
  | autolink
  deriving DecidableEq

/-- The role as messages name it. -/
def StructuralRole.label : StructuralRole → String
  | subObject => "sub-object"
  | link => "link"
  | autolink => "auto-link"

/-- Why a search widget cannot be declared, or an input cannot be compiled. -/
inductive SearchProblem where
  | choiceOnElement (type : FieldType)
  | noSuchWidget (entity : EntityKey)
  | mismatch (kind : WidgetKind) (input : SearchInput)
  | unregisteredCategory (category : ChoiceKey)
  | unknownCode (code : String) (category : ChoiceKey)
  | notDate (text : String) (problem : Calendar.DateProblem)
  | reversedRange (from' to' : Calendar.Date)
  deriving DecidableEq

/-- What is wrong with the widget or its input, as a message ends. -/
def SearchProblem.message : SearchProblem → String
  | choiceOnElement type => "a " ++ type.label ++ " element cannot take choice values"
  | noSuchWidget entity => "'" ++ entity.text ++ "' has no such search widget"
  | mismatch kind input => kind.label ++ " widget cannot take " ++ input.description
  | unregisteredCategory category =>
      "choice category '" ++ category.text ++ "' is not registered"
  | unknownCode code category => "'" ++ code ++ "' is not a value of '" ++ category.text ++ "'"
  | notDate text problem => "'" ++ text ++ "' is not a YYYY-MM-DD date: " ++ problem.message
  | reversedRange from' to' =>
      "range starts after it ends (" ++ from'.text ++ " > " ++ to'.text ++ ")"

/-- A call that an emitter cannot take in its present state. -/
inductive EmissionProblem where
  /-- No entity is open. -/
  | noEntity (emitter : String)
  /-- The named entity is still open. -/
  | entityNotEnded (emitter : String) (entity : EntityKey)
  /-- Some earlier entity is still open. -/
  | previousNotEnded (emitter : String)
  | finishInsideEntity (emitter : String)
  deriving DecidableEq

/-- The name of the emitter and what is wrong with the call. -/
def EmissionProblem.message : EmissionProblem → String
  | noEntity emitter => emitter ++ ": no entity in progress"
  | entityNotEnded emitter entity => emitter ++ ": entity '" ++ entity.text ++ "' was not ended"
  | previousNotEnded emitter => emitter ++ ": previous entity was not ended"
  | finishInsideEntity emitter => emitter ++ ": finish called inside an entity"

/-- What is wrong with a configuration text. -/
inductive ConfigProblem where
  /-- Not a configuration document, or one with an unknown key or a value of the wrong type. -/
  | malformed
  | unknownLevel (level : String) (known : List String)
  deriving DecidableEq

/-- What is wrong with the text, as a message ends. -/
def ConfigProblem.message : ConfigProblem → String
  | malformed => "not a configuration document"
  | unknownLevel level known =>
      "unknown log level '" ++ level ++ "', expected one of " ++ ", ".intercalate known

/-- A failure with its cause. -/
inductive Fault where
  | duplicateName (scope : NameScope) (name : String)
  | invalidName (name : String) (problem : Name.Problem)
  | missingPrecondition (entity : EntityKey) (property : String) (required : Requirement)
  | subObjectConflict (entity : EntityKey) (existing property : String)
  | unresolvedBinding (entity : EntityKey) (property : String) (target : BindingTarget)
  | ownershipViolation (entity : EntityKey) (property : String) (owner : EntityKey)
  | schemaFrozen (step : CompositionStep)
  | cyclicCascade (steps : Nat) (target : EntityKey) (property : String)
  | invalidBusinessRule (entity : EntityKey) (property : String) (rule : BusinessRule)
      (problem : RuleProblem)
  | entityNotFound (entity : EntityKey)
  | propertyNotFound (entity : EntityKey) (property : String)
  | fieldNotFound (entity : EntityKey) (field : String)
  | exclusiveFlags (entity : EntityKey) (roles : List StructuralRole)
  | derivationConflict (entity : EntityKey) (operation : String)
  | entityNotFinalized (entity : EntityKey)
  | schemaNotFinalized (schema : String)
  | unknownHookTarget (entity : EntityKey) (method origin : String)
  | unknownSearchElement (entity : EntityKey) (element : ElementRef)
  | invalidSearchInput (widget : String) (problem : SearchProblem)
  | emission (problem : EmissionProblem)
  | outputExists (path : String)
  | unreadable (path : String)
  | unwritable (path : String)
  | directoryNotCreated (path : String)
  | invalidConfig (problem : ConfigProblem)
  /-- The findings of a failed validation, in words. -/
  | validation (findings : List String)
  | orphanSubObject (link : String)
  deriving DecidableEq

/-- The part of the work in which a fault arises. -/
inductive FaultCategory where
  | composition
  | derivation
  | hook
  | fileSystem
  | other
  deriving DecidableEq

namespace Fault

/-- The fault in words. -/
def message : Fault → String
  | duplicateName scope name => "Duplicate name '" ++ name ++ "' in " ++ scope.text
  | invalidName name problem => "Invalid name '" ++ name ++ "': " ++ problem.message
  | missingPrecondition entity property required =>
      "Property '" ++ property ++ "' on '" ++ entity.text ++ "' requires " ++ required.text
  | subObjectConflict entity existing property =>
      "Entity '" ++ entity.text ++ "' already has sub-object parent link '" ++ existing
        ++ "'; cannot add '" ++ property ++ "'"
  | unresolvedBinding entity property target =>
      "Property '" ++ property ++ "' on '" ++ entity.text ++ "' references unknown " ++ target.text
  | ownershipViolation entity property owner =>
      "Property '" ++ property ++ "' already belongs to '" ++ owner.text
        ++ "' and cannot move to '" ++ entity.text ++ "'"
  | schemaFrozen step => "Schema is finalized; cannot " ++ step.label
  | cyclicCascade steps target property =>
      "Property cascade did not settle after " ++ toString steps ++ " attachments (last: '"
        ++ target.text ++ "." ++ property ++ "')"
  | invalidBusinessRule entity property rule problem =>
      "Business rule '" ++ rule.name ++ "' is not valid on property '" ++ property ++ "' of '"
        ++ entity.text ++ "': " ++ problem.message
  | entityNotFound entity => "Entity not found: " ++ entity.text
  | propertyNotFound entity property =>
      "Property '" ++ property ++ "' not found in entity '" ++ entity.text ++ "'"
  | fieldNotFound entity field =>
      "Field '" ++ field ++ "' not found in entity '" ++ entity.text ++ "'"
  | exclusiveFlags entity roles =>
      "Entity '" ++ entity.text ++ "' combines exclusive roles: "
        ++ " and ".intercalate (roles.map StructuralRole.label)
  | derivationConflict entity operation =>
      "Conflicting definitions for operation '" ++ operation ++ "' on '" ++ entity.text ++ "'"
  | entityNotFinalized entity => "Entity '" ++ entity.text ++ "' is not finalized"
  | schemaNotFinalized schema => "Entity '" ++ schema ++ "' is not finalized"
  | unknownHookTarget entity method origin =>
      "Hook on '" ++ entity.text ++ "' targets unknown method '" ++ method ++ "' of property '"
        ++ origin ++ "'"
  | unknownSearchElement entity element =>
      "Search widget on '" ++ entity.text ++ "' references unknown element '" ++ element.text ++ "'"
  | invalidSearchInput widget problem =>
      "Invalid search input for '" ++ widget ++ "': " ++ problem.message
  | emission problem => "Emission failed: " ++ problem.message
  | outputExists path => "Output directory already exists: " ++ path
  | unreadable path => "Failed to read file '" ++ path ++ "'"
  | unwritable path => "Failed to write file '" ++ path ++ "'"
  | directoryNotCreated path => "Failed to create directory '" ++ path ++ "'"
  | invalidConfig problem => "Invalid configuration: " ++ problem.message
  | validation findings => "Validation error: " ++ "; ".intercalate findings
  | orphanSubObject link => "Internal error: sub-object link '" ++ link ++ "' has no parent"

/-- The part of the work that raises the fault. -/
def category : Fault → FaultCategory
  | duplicateName _ _ | invalidName _ _ | missingPrecondition _ _ _ | subObjectConflict _ _ _
  | unresolvedBinding _ _ _ | ownershipViolation _ _ _ | schemaFrozen _ | cyclicCascade _ _ _
  | invalidBusinessRule _ _ _ _ | entityNotFound _ | propertyNotFound _ _ | fieldNotFound _ _ =>
      .composition
  | exclusiveFlags _ _ | derivationConflict _ _ | entityNotFinalized _ | schemaNotFinalized _ =>
      .derivation
  | unknownHookTarget _ _ _ => .hook
  | unreadable _ | unwritable _ | directoryNotCreated _ => .fileSystem
  | unknownSearchElement _ _ | invalidSearchInput _ _ | emission _ | outputExists _
  | invalidConfig _ | validation _ | orphanSubObject _ => .other

end Fault

end EntitySurface
