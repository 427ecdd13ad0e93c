import EntitySurface.Key
import EntitySurface.Text.Case

/-!
# Action groups

Access control knows operations only through action groups. Every entity exposes the same ten
groups, named after it; a group lists its operations in the order in which they joined it.
-/

namespace EntitySurface

/-- The kinds of action group. -/
inductive GroupKind where
  | read
  | modify
  | full
  | steer
  | schedule
  | lookup
  | createNew
  | dataAdmin
  | executiveRead
  | businessAdmin
  deriving DecidableEq

namespace GroupKind

/-- All kinds in their canonical order. -/
def all : List GroupKind :=
  [read, modify, full, steer, schedule, lookup, createNew, dataAdmin, executiveRead, businessAdmin]

/-- The last part of a group's name. -/
def suffix : GroupKind → String
  | read => "READ"
  | modify => "MODIFY"
  | full => "FULL"
  | steer => "STEER"
  | schedule => "SCHEDULE"
  | lookup => "LOOKUP"
  | createNew => "CREATENEW"
  | dataAdmin => "DATAADMIN"
  | executiveRead => "EXECUTIVEREAD"
  | businessAdmin => "BUSINESSADMIN"

/-- The kind as it is shown. -/
def label : GroupKind → String
  | read => "Read"
  | modify => "Modify"
  | full => "Full"
  | steer => "Steer"
  | schedule => "Schedule"
  | lookup => "Lookup"
  | createNew => "Create New"
  | dataAdmin => "Data Admin"
  | executiveRead => "Executive Read"
  | businessAdmin => "Business Admin"

/-- The kind as one word. -/
def word : GroupKind → String
  | createNew => "CreateNew"
  | dataAdmin => "DataAdmin"
  | executiveRead => "ExecutiveRead"
  | businessAdmin => "BusinessAdmin"
  | kind => kind.label

/-- The kind of which this is the word. -/
def ofWord? (word : String) : Option GroupKind :=
  all.find? fun kind => kind.word == word

/-- The name of an entity's group, such as `INVOICE_READ`. -/
def groupName (kind : GroupKind) (entity : EntityKey) : String :=
  Text.uppercase entity.name ++ "_" ++ kind.suffix

end GroupKind

/-- One group of an entity with the operations in it. -/
structure ActionGroup where
  kind : GroupKind
  name : String
  operations : List String := []
  deriving DecidableEq

/-- The groups of one entity. -/
structure GroupSet where
  entity : EntityKey
  groups : List ActionGroup
  deriving DecidableEq

namespace GroupSet

/-- The ten groups of an entity, all of them empty. -/
def forEntity (entity : EntityKey) : GroupSet :=
  { entity, groups := GroupKind.all.map fun kind => { kind, name := kind.groupName entity } }

/-- The group of a kind. -/
def group? (set : GroupSet) (kind : GroupKind) : Option ActionGroup :=
  set.groups.find? fun group => group.kind == kind

/-- The operations of a group; a group that is not there has none. -/
def operations (set : GroupSet) (kind : GroupKind) : List String :=
  match set.group? kind with
  | some group => group.operations
  | none => []

/-- The groups that an operation has joined. -/
def groupsOf (set : GroupSet) (operation : String) : List GroupKind :=
  (set.groups.filter fun group => group.operations.contains operation).map ActionGroup.kind

/-- Add an operation to the first group of a kind, if it is not there yet. -/
def joinFirst (kind : GroupKind) (operation : String) : List ActionGroup → List ActionGroup
  | [] => []
  | group :: rest =>
      if group.kind == kind then
        if group.operations.contains operation then group :: rest
        else { group with operations := group.operations ++ [operation] } :: rest
      else group :: joinFirst kind operation rest

/-- Add an operation to a group. A group that is missing from the set is put at its end. -/
def register (set : GroupSet) (kind : GroupKind) (operation : String) : GroupSet :=
  let groups :=
    if (set.group? kind).isSome then set.groups
    else set.groups ++ [{ kind, name := kind.groupName set.entity }]
  { set with groups := joinFirst kind operation groups }

end GroupSet

end EntitySurface
