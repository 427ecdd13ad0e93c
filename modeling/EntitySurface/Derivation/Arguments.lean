import EntitySurface.Surface
import EntitySurface.Text.Plural
import EntitySurface.Text.Words

/-!
# Names and arguments of an entity

How an entity is named in what is derived from it, and the arguments that stand for its objects, for
the objects it is linked to, for what creation needs and for what a search takes.
-/

namespace EntitySurface

/-- The directories of a namespace, one per segment. -/
def namespacePath (space : String) : String :=
  "/".intercalate ((segments space.toList).map fun segment =>
    Text.snakeCase (String.ofList segment))
where
  /-- The pieces between dots. -/
  segments : List Char → List (List Char)
    | [] => [[]]
    | c :: rest =>
        if c = '.' then [] :: segments rest
        else
          match segments rest with
          | [] => [[c]]
          | segment :: others => (c :: segment) :: others

/-- One object of an entity, named after the entity. -/
def EntityKey.objectArgument (key : EntityKey) : Argument :=
  { name := Text.snakeCase key.name, kind := .object key }

/-- Several objects of an entity, named after the entity. -/
def EntityKey.objectsArgument (key : EntityKey) : Argument :=
  { name := Text.plural (Text.snakeCase key.name), kind := .objects key }

/-- The left end of a link; the prefix keeps both ends of a link within one entity apart. -/
def leftArgument (left : EntityKey) : Argument :=
  { name := "left_" ++ Text.snakeCase left.name, kind := .object left }

/-- The right end of a link. -/
def rightArgument (right : EntityKey) : Argument :=
  { name := "right_" ++ Text.snakeCase right.name, kind := .object right }

/-- A scalar argument. -/
def valueArgument (name : String) (type : FieldType) : Argument :=
  { name, kind := .value type }

/-- An argument that carries the content of a file. -/
def fileArgument (name : String) : Argument :=
  { name, kind := .file }

/-- The part of an operation's name that tells apart the properties of one kind; a property with the
default name adds nothing. -/
def Property.suffix (property : Property) : String :=
  if property.name = property.tag.defaultName then "" else Text.pascalCase property.name

/-- The parent of a parent link, under the name that was resolved for it. -/
def Property.parentArgument? (link : Property) : Option Argument :=
  match link.kind with
  | .linkedToParent parent =>
      let name := ((link.resolved.bind ResolvedSettings.parentArgument).getD
        (parentArgumentName link.name))
      some { name, kind := .object parent }
  | _ => none

namespace Entity

/-- The entity as it stands inside operation names. -/
def pascalName (entity : Entity) : String :=
  Text.pascalCase entity.key.name

/-- The entity as it stands inside module and argument names. -/
def moduleName (entity : Entity) : String :=
  Text.snakeCase entity.key.name

/-- The directory of the stub module. -/
def moduleDirectory (entity : Entity) : String :=
  "src/" ++ namespacePath entity.key.space

/-- The path of the stub module. -/
def modulePath (entity : Entity) : String :=
  entity.moduleDirectory ++ "/" ++ entity.moduleName ++ ".rs"

/-- One object of the entity. -/
def objectArgument (entity : Entity) : Argument :=
  entity.key.objectArgument

/-- Several objects of the entity. -/
def objectsArgument (entity : Entity) : Argument :=
  entity.key.objectsArgument

/-- The arguments that creation gained when the entity was finalized. -/
def creationArguments (entity : Entity) : List Argument :=
  match entity.firstOf? .storedObject with
  | some stored => (stored.extraArguments "insert").map Argument.ofMethodArgument
  | none => []

/-- The argument of a search widget. All search arguments are optional. -/
def widgetArgument (entity : Entity) (widget : SearchWidget) : Argument :=
  let type := match entity.resolveElement? widget.element with
    | some (type, _) => type
    | none => .text 80
  let kind := match widget.kind with
    | .text | .exact => ArgumentKind.value type
    | .choice category => .values (.choice category false)
    | .dateRange => .dateRange
  { name := widget.argumentName, kind, optional := true }

/-- The arguments of the search operation. -/
def searchArguments (entity : Entity) : List Argument :=
  entity.searchWidgets.map entity.widgetArgument

/-- The arguments of the search page. -/
def searchPageArguments (entity : Entity) : List Argument :=
  entity.primaryWidgets.map entity.widgetArgument

/-- A derived operation of the entity. -/
def operation (entity : Entity) (name : String) (inputs outputs : List Argument)
    (groups : List GroupKind) : Operation :=
  .make entity.key name inputs outputs none groups

/-- A derived operation of the entity in which access is checked on the first input. -/
def guardedOperation (entity : Entity) (name : String) (inputs outputs : List Argument)
    (groups : List GroupKind) : Operation :=
  .make entity.key name inputs outputs (some 0) groups

end Entity

end EntitySurface
