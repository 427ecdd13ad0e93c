import EntitySurface.Field
import EntitySurface.Property.Method
import EntitySurface.Property.Tag

/-!
# Property kinds

A property kind is a capability with its parameters. The kind alone determines the columns that the
property stores, the methods it declares and the entities and categories it is bound to.
-/

namespace EntitySurface

/-- A capability with its parameters. -/
inductive PropertyKind where
  | storedObject
  | uniqueIdentified
  | named
  | numbered
  | lifecycle (category : ChoiceKey)
  | targetDate
  | timeSlot
  | schedule (dependency : EntityKey)
  | linkedToParent (parent : EntityKey)
  | hasChildren (child : EntityKey) (link : String)
  | linkObject (left right : EntityKey)
  | leftForLink (link right : EntityKey)
  | rightForLink (link left : EntityKey)
  | autolinkObject (target : EntityKey)
  | hasAutolink (link : EntityKey)
  | iterated
  | versioned
  | simpleTaskWorkflow
  | imageContent
  | fileContent
  | printOut
  | creationLog
  | lastUpdate
  deriving DecidableEq

/-- What a parameter of a property is bound to. -/
inductive BindingTarget where
  | entity (key : EntityKey)
  | choice (key : ChoiceKey)
  deriving DecidableEq

/-- The key of the target as text. -/
def BindingTarget.text : BindingTarget → String
  | entity key => key.text
  | choice key => key.text

/-- A named parameter of a property. -/
structure Binding where
  name : String
  target : BindingTarget
  deriving DecidableEq

namespace PropertyKind

/-- The kind without its parameters. -/
def tag : PropertyKind → PropertyTag
  | storedObject => .storedObject
  | uniqueIdentified => .uniqueIdentified
  | named => .named
  | numbered => .numbered
  | lifecycle _ => .lifecycle
  | targetDate => .targetDate
  | timeSlot => .timeSlot
  | schedule _ => .schedule
  | linkedToParent _ => .linkedToParent
  | hasChildren _ _ => .hasChildren
  | linkObject _ _ => .linkObject
  | leftForLink _ _ => .leftForLink
  | rightForLink _ _ => .rightForLink
  | autolinkObject _ => .autolinkObject
  | hasAutolink _ => .hasAutolink
  | iterated => .iterated
  | versioned => .versioned
  | simpleTaskWorkflow => .simpleTaskWorkflow
  | imageContent => .imageContent
  | fileContent => .fileContent
  | printOut => .printOut
  | creationLog => .creationLog
  | lastUpdate => .lastUpdate

/-- The parameters, by name. -/
def bindings : PropertyKind → List Binding
  | lifecycle category => [⟨"lifecycle", .choice category⟩]
  | schedule dependency => [⟨"dependency", .entity dependency⟩]
  | linkedToParent parent => [⟨"parent", .entity parent⟩]
  | hasChildren child _ => [⟨"child", .entity child⟩]
  | linkObject left right => [⟨"left", .entity left⟩, ⟨"right", .entity right⟩]
  | leftForLink link right => [⟨"link", .entity link⟩, ⟨"right", .entity right⟩]
  | rightForLink link left => [⟨"link", .entity link⟩, ⟨"left", .entity left⟩]
  | autolinkObject target => [⟨"target", .entity target⟩]
  | hasAutolink link => [⟨"link", .entity link⟩]
  | _ => []

/-- The columns that the property stores on its owner. -/
def elements (owner : EntityKey) (name : String) : PropertyKind → List StoredElement
  | uniqueIdentified => [{ name := "ID", label := "Id", type := .objectId owner }]
  | named => [{ name := "OBJECTNAME", label := "Name", type := .text 80, searchable := true }]
  | numbered => [{ name := "NR", label := "Number", type := .text 64, searchable := true }]
  | lifecycle category =>
      [{ name := "STATE", label := "State", type := .choice category false, searchable := true }]
  | targetDate => [{ name := "TARGETDATE", label := "Target Date", type := .date }]
  | timeSlot =>
      [{ name := "STARTTIME", label := "Start Time", type := .timestamp },
       { name := "ENDTIME", label := "End Time", type := .timestamp }]
  | linkedToParent parent =>
      [{ name := name ++ "ID", label := parent.name, type := .objectId parent }]
  | linkObject left right =>
      [{ name := "LFID", label := left.name, type := .objectId left },
       { name := "RGID", label := right.name, type := .objectId right }]
  | autolinkObject target =>
      [{ name := "LEFTOBJID", label := "Left", type := .objectId target },
       { name := "RIGHTOBJID", label := "Right", type := .objectId target }]
  | iterated =>
      [{ name := "ITERATION", label := "Iteration", type := .integer },
       { name := "ISLATEST", label := "Latest", type := .boolean }]
  | versioned =>
      [{ name := "VERSION", label := "Version", type := .text 64 },
       { name := "LASTVERSION", label := "Last Version", type := .boolean }]
  | imageContent =>
      [{ name := name ++ "IMG", label := "Image", type := .binary },
       { name := name ++ "TBN", label := "Thumbnail", type := .binary }]
  | creationLog =>
      [{ name := "CREATEUSERID", label := "Created By", type := .text 64 },
       { name := "CREATETIME", label := "Created On", type := .timestamp }]
  | lastUpdate =>
      [{ name := "UPDATEUSERID", label := "Updated By", type := .text 64 },
       { name := "UPDATETIME", label := "Updated On", type := .timestamp }]
  | storedObject | schedule _ | hasChildren _ _ | leftForLink _ _ | rightForLink _ _
  | hasAutolink _ | simpleTaskWorkflow | fileContent | printOut => []

/-- The data access methods that the property declares. -/
def methods : PropertyKind → List AccessMethod
  | storedObject => [{ name := "insert", hasBulk := true }]
  | uniqueIdentified =>
      [{ name := "readone", isStatic := true }, { name := "update", hasBulk := true },
       { name := "delete", hasBulk := true }]
  | named => [{ name := "setobjectname" }]
  | numbered => [{ name := "renumber" }]
  | lifecycle _ => [{ name := "changestate", hasBulk := true }]
  | targetDate => [{ name := "settargetdate" }]
  | timeSlot => [{ name := "reschedule", hasBulk := true }]
  | schedule _ => [{ name := "previewplan", isStatic := true }, { name := "insertafter" }]
  | linkedToParent _ =>
      [{ name := "setparent", hasBulk := true }, { name := "getallchildren", isStatic := true }]
  | linkObject _ _ =>
      [{ name := "setleftobject" }, { name := "setrightobject" },
       { name := "getlinksfromleft", isStatic := true },
       { name := "getlinksfromright", isStatic := true }]
  | autolinkObject _ =>
      [{ name := "setlinks" }, { name := "getlinksfromobject", isStatic := true }]
  | iterated => [{ name := "showhistory", isStatic := true }]
  | versioned => [{ name := "newversion" }, { name := "forceaslast" }]
  | simpleTaskWorkflow => [{ name := "reassign" }]
  | imageContent => [{ name := "setimage" }, { name := "getimage" }]
  | fileContent =>
      [{ name := "addattachment" }, { name := "downloadattachment" },
       { name := "deleteattachment" }]
  | printOut => [{ name := "preview" }]
  | hasChildren _ _ | leftForLink _ _ | rightForLink _ _ | hasAutolink _ | creationLog
  | lastUpdate => []

/-- The method of a given name. -/
def method? (kind : PropertyKind) (name : String) : Option AccessMethod :=
  kind.methods.find? fun method => method.name == name

end PropertyKind

end EntitySurface
