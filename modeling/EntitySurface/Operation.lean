import EntitySurface.ActionGroup
import EntitySurface.Digest.Uuid
import EntitySurface.Property.Method

/-!
# Operations, pages and menu entries

The resolved shapes that derivation produces. An operation has ordered inputs and outputs, may name
one input as the object that access is checked on, and lists the action groups it joins. A page
shows an operation; a menu entry points at a page.
-/

namespace EntitySurface

/-- The shape of an argument. -/
inductive ArgumentKind where
  /-- One object of an entity. -/
  | object (entity : EntityKey)
  /-- Several objects of an entity. -/
  | objects (entity : EntityKey)
  | value (type : FieldType)
  | values (type : FieldType)
  /-- Optional lower and upper bounds on a date. -/
  | dateRange
  /-- The content of a file. -/
  | file
  deriving DecidableEq

namespace ArgumentKind

/-- The entity whose objects are passed. -/
def entity? : ArgumentKind → Option EntityKey
  | object entity | objects entity => some entity
  | _ => none

/-- The kind as a signature shows it. -/
def text : ArgumentKind → String
  | object entity => entity.name
  | objects entity => entity.name ++ "[]"
  | value type => type.label
  | values type => type.label ++ "[]"
  | dateRange => "DateRange"
  | file => "File"

end ArgumentKind

/-- A named argument of an operation or a page. -/
structure Argument where
  name : String
  kind : ArgumentKind
  /-- The caller may leave the argument out. -/
  optional : Bool := false
  deriving DecidableEq

namespace Argument

/-- The argument as a signature shows it; `?` marks an optional one. -/
def text (argument : Argument) : String :=
  argument.name ++ ": " ++ argument.kind.text ++ if argument.optional then "?" else ""

/-- The argument that a method gained from a sibling; identifiers of objects become objects. -/
def ofMethodArgument (argument : MethodArgument) : Argument :=
  match argument.type with
  | .objectId entity => { name := argument.name, kind := .object entity }
  | type => { name := argument.name, kind := .value type }

end Argument

/-- A derived operation. -/
structure Operation where
  id : Uuid
  entity : EntityKey
  name : String
  inputs : List Argument := []
  outputs : List Argument := []
  /-- The position of the input that access is checked on. -/
  criterion : Option UInt64 := none
  groups : List GroupKind := []
  deriving DecidableEq

namespace Operation

/-- The identifier of an operation, computed from the entity and the operation's name. -/
def identity (entity : EntityKey) (name : String) : Uuid :=
  Uuid.ofName (entity.text ++ "#" ++ name)

/-- An operation under the identifier that belongs to its name. -/
def make (entity : EntityKey) (name : String) (inputs outputs : List Argument)
    (criterion : Option UInt64) (groups : List GroupKind) : Operation :=
  { id := identity entity name, entity, name, inputs, outputs, criterion, groups }

/-- Add a group unless it is already listed. -/
def addGroup (operation : Operation) (group : GroupKind) : Operation :=
  if operation.groups.contains group then operation
  else { operation with groups := operation.groups ++ [group] }

/-- Static operations do not act on an object that exists. -/
def isStatic (operation : Operation) : Bool :=
  operation.criterion.isNone

/-- The input that access is checked on. -/
def criterionArgument? (operation : Operation) : Option Argument :=
  operation.criterion.bind fun position => operation.inputs[position.toNat]?

end Operation

/-- A derived page. -/
structure Page where
  entity : EntityKey
  name : String
  inputs : List Argument := []
  linkedOperation : String
  /-- The extra tabs shown on the page. -/
  tabs : List String := []
  deriving DecidableEq

/-- The page of an operation, with the operation's inputs. -/
def Page.forOperation (operation : Operation) : Page :=
  { entity := operation.entity, name := operation.name ++ "Page", inputs := operation.inputs
    linkedOperation := operation.name }

/-- A menu entry that points at a page. -/
structure MenuEntry where
  entity : EntityKey
  page : String
  label : String
  deriving DecidableEq

end EntitySurface
