import EntitySurface.Property.Settling

/-!
# Entities

An entity is a data object composed from fields and properties. This module holds what can be asked
of an entity, the checked additions by which it grows, and finalization, which settles its
properties and checks what could not be checked while it grew.
-/

namespace EntitySurface

/-- An extra tab of the show page, which displays one property. -/
structure DisplayTab where
  name : String
  label : String
  showsProperty : String
  deriving DecidableEq

/-- Another header under which a flat file may offer a column. -/
structure LoaderAlias where
  header : String
  column : String
  deriving DecidableEq

/-- A composed data object. -/
structure Entity where
  key : EntityKey
  label : String
  description : Option String := none
  fields : List Field := []
  /-- All stored properties, legacy ones included, in attachment order. -/
  properties : List Property := []
  extraTabs : List DisplayTab := []
  loaderAliases : List LoaderAlias := []
  searchWidgets : List SearchWidget := []
  finalized : Bool := false
  deriving DecidableEq

namespace Entity

/-! ## Properties -/

/-- The properties that contribute to the derived surface. -/
def activeProperties (entity : Entity) : List Property :=
  entity.properties.filter fun property => !property.isLegacy

/-- The stored property of a given name. -/
def property? (entity : Entity) (name : String) : Option Property :=
  entity.properties.find? fun property => property.name == name

/-- The active properties of a kind. -/
def propertiesOf (entity : Entity) (tag : PropertyTag) : List Property :=
  entity.activeProperties.filter fun property => property.tag == tag

/-- The first active property of a kind. -/
def firstOf? (entity : Entity) (tag : PropertyTag) : Option Property :=
  entity.activeProperties.find? fun property => property.tag == tag

/-- An active property of the kind is attached. -/
def hasKind (entity : Entity) (tag : PropertyTag) : Bool :=
  entity.activeProperties.any fun property => property.tag == tag

/-- The active parent links. -/
def parentLinks (entity : Entity) : List Property :=
  entity.propertiesOf .linkedToParent

/-- The active parent link under which the entity alone exists. -/
def subObjectLink? (entity : Entity) : Option Property :=
  entity.activeProperties.find? Property.isSubObject

/-- The entity exists under a parent alone. -/
def isSubObject (entity : Entity) : Bool :=
  entity.subObjectLink?.isSome

/-- The entity links two others. -/
def isLink (entity : Entity) : Bool :=
  entity.hasKind .linkObject

/-- The entity links the objects of one other with each other. -/
def isAutolink (entity : Entity) : Bool :=
  entity.hasKind .autolinkObject

/-- The entity gets the canonical show, update and search operations: it has a unique identity, is
no link unless iterated, and no auto-link. -/
def hasShowSurface (entity : Entity) : Bool :=
  entity.hasKind .uniqueIdentified && (!entity.isLink || entity.hasKind .iterated)
    && !entity.isAutolink

/-! ## Columns -/

/-- The field of a name. -/
def field? (entity : Entity) (name : String) : Option Field :=
  entity.fields.find? fun field => field.name == name

/-- The elements of all stored properties. -/
def elements (entity : Entity) : List StoredElement :=
  entity.properties.flatMap Property.elements

/-- All columns: the fields, then the elements of the properties. -/
def columns (entity : Entity) : List String :=
  entity.fields.map Field.name ++ entity.elements.map StoredElement.name

/-- Some field or element has this name. -/
def hasColumn (entity : Entity) (column : String) : Bool :=
  (entity.field? column).isSome || entity.elements.any fun element => element.name == column

/-- The type of a column. -/
def columnType? (entity : Entity) (column : String) : Option FieldType :=
  match entity.field? column with
  | some field => some field.type
  | none => (entity.elements.find? fun element => element.name == column).map StoredElement.type

/-- The type and label of a searchable column. -/
def resolveElement? (entity : Entity) : ElementRef → Option (FieldType × String)
  | .field name => (entity.field? name).map fun field => (field.type, field.label)
  | .property property element => do
      let stored ← entity.property? property
      let found ← stored.elements.find? fun candidate => candidate.name == element
      pure (found.type, found.label)

/-- A column of the same name, up to the case of ASCII letters, is there. Search arguments are
lowercased columns, so such columns cannot stand side by side. -/
def columnClashes (entity : Entity) (column : String) : Bool :=
  entity.columns.any fun existing => Text.equalIgnoringAsciiCase existing column

/-- The widgets shown on the search page. -/
def primaryWidgets (entity : Entity) : List SearchWidget :=
  entity.searchWidgets.filter SearchWidget.isPrimary

/-! ## Checked additions -/

/-- Add a field whose column does not clash with those that are there. -/
def addField (entity : Entity) (field : Field) : Except Fault Entity :=
  if entity.columnClashes field.name then
    .error (.duplicateName (.columns entity.key) field.name)
  else .ok { entity with fields := entity.fields ++ [field] }

/-- A parent link may stand beside other parent links only if none of them is a sub-object link. -/
def checkParentLink (entity : Entity) (incoming : Property) : Except Fault Unit :=
  if incoming.tag != .linkedToParent then .ok ()
  else
    let links := entity.properties.filter fun property => property.tag == .linkedToParent
    match links.find? Property.isSubObject with
    | some existing => .error (.subObjectConflict entity.key existing.name incoming.name)
    | none =>
        match incoming.isSubObject, links.head? with
        | true, some existing => .error (.subObjectConflict entity.key existing.name incoming.name)
        | _, _ => .ok ()

/-- Store a property whose owner is bound. -/
def addProperty (entity : Entity) (property : Property) : Except Fault Entity :=
  if (entity.property? property.name).isSome then
    .error (.duplicateName (.properties entity.key) property.name)
  else
    match property.elements.find? fun element => entity.columnClashes element.name with
    | some element => .error (.duplicateName (.columns entity.key) element.name)
    | none =>
        match entity.checkParentLink property with
        | .error fault => .error fault
        | .ok () => .ok { entity with properties := entity.properties ++ [property] }

/-- Change the first property of a given name. -/
def modifyProperty (entity : Entity) (name : String) (change : Property → Property) : Entity :=
  { entity with properties := go entity.properties }
where
  go : List Property → List Property
    | [] => []
    | property :: rest =>
        if property.name == name then change property :: rest else property :: go rest

/-- Add a rule to a stored property. A sub-object rule that is already there stays alone. -/
def addRule (entity : Entity) (name : String) (rule : BusinessRule) : Except Fault Entity :=
  match entity.property? name with
  | none => .error (.propertyNotFound entity.key name)
  | some property =>
      let added :=
        entity.modifyProperty name fun found => { found with rules := found.rules ++ [rule] }
      if !rule.accepts property.tag then
        .error (.invalidBusinessRule entity.key name rule (.wrongKind rule.appliesTo))
      else if rule == .subObject then
        if property.isSubObject then .ok entity
        else
          match entity.properties.find? fun other =>
              other.tag == .linkedToParent && other.name != name with
          | some other => .error (.subObjectConflict entity.key other.name name)
          | none => .ok added
      else .ok added

/-- Add a hook to the property that declares it. -/
def addHook (entity : Entity) (hook : MethodHook) : Except Fault Entity :=
  match entity.property? hook.declaring with
  | none => .error (.propertyNotFound entity.key hook.declaring)
  | some _ =>
      .ok <| entity.modifyProperty hook.declaring fun found =>
        { found with declaredHooks := found.declaredHooks ++ [hook] }

/-- Add a widget; the element and its argument must not have one yet. -/
def addWidget (entity : Entity) (widget : SearchWidget) : Except Fault Entity :=
  if entity.searchWidgets.any fun other =>
      other.element == widget.element || other.argumentName == widget.argumentName then
    .error (.duplicateName (.widgets entity.key) widget.element.text)
  else .ok { entity with searchWidgets := entity.searchWidgets ++ [widget] }

/-- Add a tab of a new name that shows a property of the entity. -/
def addTab (entity : Entity) (tab : DisplayTab) : Except Fault Entity :=
  if (entity.property? tab.showsProperty).isNone then
    .error (.propertyNotFound entity.key tab.showsProperty)
  else if entity.extraTabs.any fun other => other.name == tab.name then
    .error (.duplicateName (.tabs entity.key) tab.name)
  else .ok { entity with extraTabs := entity.extraTabs ++ [tab] }

/-- Add an alias for a header that has none. -/
def addAlias (entity : Entity) (added : LoaderAlias) : Except Fault Entity :=
  if entity.loaderAliases.any fun other => other.header == added.header then
    .error (.duplicateName (.aliases entity.key) added.header)
  else .ok { entity with loaderAliases := entity.loaderAliases ++ [added] }

/-! ## Finalization -/

/-- The target of a hook is a stored property with that method. -/
def hasMethod (entity : Entity) (method origin : String) : Bool :=
  (entity.property? origin).any fun property => (property.kind.method? method).isSome

/-- The first hook around a method that the entity does not have. -/
def danglingHook? (entity : Entity) : Option MethodHook :=
  (entity.properties.flatMap Property.hooks).find? fun hook =>
    !entity.hasMethod hook.method hook.origin

/-- The first alias of a column that the entity does not have. -/
def danglingAlias? (entity : Entity) : Option LoaderAlias :=
  entity.loaderAliases.find? fun candidate => !entity.hasColumn candidate.column

/-- Settle the properties in attachment order, check hooks and aliases, and mark the entity as
finalized. On a fault, the properties settled so far keep their new settings. -/
def finalize (entity : Entity) : Entity × Option Fault :=
  let (properties, fault?) := Property.settleFrom entity.key entity.properties [] entity.properties
  let settled := { entity with properties }
  match fault? with
  | some fault => (settled, some fault)
  | none =>
      match settled.danglingHook? with
      | some hook => (settled, some (.unknownHookTarget entity.key hook.method hook.origin))
      | none =>
          match settled.danglingAlias? with
          | some dangling => (settled, some (.fieldNotFound entity.key dangling.column))
          | none => ({ settled with finalized := true }, none)

end Entity

end EntitySurface
