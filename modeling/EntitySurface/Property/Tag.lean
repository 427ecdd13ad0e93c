/-!
# Kinds of property, by name

The closed set of capabilities that an entity can be given. A tag is a property kind without its
parameters; capability queries go by tag.
-/

namespace EntitySurface

/-- The capabilities a property can stand for. -/
inductive PropertyTag where
  | storedObject
  | uniqueIdentified
  | named
  | numbered
  | lifecycle
  | targetDate
  | timeSlot
  | schedule
  | linkedToParent
  | hasChildren
  | linkObject
  | leftForLink
  | rightForLink
  | autolinkObject
  | hasAutolink
  | iterated
  | versioned
  | simpleTaskWorkflow
  | imageContent
  | fileContent
  | printOut
  | creationLog
  | lastUpdate
  deriving DecidableEq

namespace PropertyTag

/-- All tags in declaration order. -/
def all : List PropertyTag := [
  storedObject, uniqueIdentified, named, numbered, lifecycle, targetDate, timeSlot, schedule,
  linkedToParent, hasChildren, linkObject, leftForLink, rightForLink, autolinkObject, hasAutolink,
  iterated, versioned, simpleTaskWorkflow, imageContent, fileContent, printOut, creationLog,
  lastUpdate]

/-- The name of the kind. -/
def label : PropertyTag → String
  | storedObject => "StoredObject"
  | uniqueIdentified => "UniqueIdentified"
  | named => "Named"
  | numbered => "Numbered"
  | lifecycle => "Lifecycle"
  | targetDate => "TargetDate"
  | timeSlot => "TimeSlot"
  | schedule => "Schedule"
  | linkedToParent => "LinkedToParent"
  | hasChildren => "HasChildren"
  | linkObject => "LinkObject"
  | leftForLink => "LeftForLink"
  | rightForLink => "RightForLink"
  | autolinkObject => "AutolinkObject"
  | hasAutolink => "HasAutolink"
  | iterated => "Iterated"
  | versioned => "Versioned"
  | simpleTaskWorkflow => "SimpleTaskWorkflow"
  | imageContent => "ImageContent"
  | fileContent => "FileContent"
  | printOut => "PrintOut"
  | creationLog => "CreationLog"
  | lastUpdate => "LastUpdate"

/-- The instance name of a property that is given none. -/
def defaultName : PropertyTag → String
  | storedObject => "STOREDOBJECT"
  | uniqueIdentified => "UNIQUEIDENTIFIED"
  | named => "NAMED"
  | numbered => "NUMBERED"
  | lifecycle => "LIFECYCLE"
  | targetDate => "TARGETDATE"
  | timeSlot => "TIMESLOT"
  | schedule => "SCHEDULE"
  | linkedToParent => "PARENT"
  | hasChildren => "CHILDREN"
  | linkObject => "LINKOBJECT"
  | leftForLink => "LEFTFORLINK"
  | rightForLink => "RIGHTFORLINK"
  | autolinkObject => "AUTOLINKOBJECT"
  | hasAutolink => "HASAUTOLINK"
  | iterated => "ITERATED"
  | versioned => "VERSIONED"
  | simpleTaskWorkflow => "SIMPLETASKWORKFLOW"
  | imageContent => "IMAGE"
  | fileContent => "FILECONTENT"
  | printOut => "PRINTOUT"
  | creationLog => "CREATIONLOG"
  | lastUpdate => "LASTUPDATE"

/-- The kinds that must stand beside a property when its entity is finalized. -/
def preconditions : PropertyTag → List PropertyTag
  | storedObject | hasChildren | leftForLink | rightForLink | hasAutolink => []
  | uniqueIdentified | creationLog | lastUpdate => [storedObject]
  | targetDate | simpleTaskWorkflow => [lifecycle]
  | schedule => [timeSlot]
  | named | numbered | lifecycle | timeSlot | linkedToParent | linkObject | autolinkObject
  | iterated | versioned | imageContent | fileContent | printOut => [uniqueIdentified]

/-- Kinds that are only meant to arrive as the companion of a link. -/
def isCompanion : PropertyTag → Bool
  | hasChildren | leftForLink | rightForLink | hasAutolink => true
  | _ => false

/-- The tag with a given name. -/
def ofLabel? (label : String) : Option PropertyTag :=
  all.find? fun tag => tag.label == label

end PropertyTag

end EntitySurface
