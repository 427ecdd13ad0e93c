import EntitySurface.Fault
import EntitySurface.Property.Basic

/-!
# Resolving a property's settings

When an entity is finalized, its properties are settled one by one in attachment order. A property
may see which siblings the entity has, legacy ones included, but resolved settings only of the
siblings settled before it. Settling checks the preconditions of the kind and then fixes the
arguments that the property's methods gain and the hooks that it puts around its siblings' methods.
-/

namespace EntitySurface

/-- What a property sees while it is settled. -/
structure Siblings where
  entity : EntityKey
  /-- Every stored property of the entity. -/
  all : List Property
  /-- The properties settled before, with their settings. -/
  earlier : List Property

namespace Siblings

/-- Some sibling is of this kind. -/
def has (siblings : Siblings) (tag : PropertyTag) : Bool :=
  siblings.all.any fun property => property.tag == tag

/-- The first sibling of a kind, in attachment order. -/
def first? (siblings : Siblings) (tag : PropertyTag) : Option Property :=
  siblings.all.find? fun property => property.tag == tag

/-- All siblings of a kind. -/
def allOf (siblings : Siblings) (tag : PropertyTag) : List Property :=
  siblings.all.filter fun property => property.tag == tag

/-- The settings of a sibling settled before. -/
def resolved? (siblings : Siblings) (name : String) : Option ResolvedSettings :=
  (siblings.earlier.find? fun property => property.name == name).bind Property.resolved

/-- The name of the sibling whose method a hook of `dependent` is put around. -/
def originName (siblings : Siblings) (tag : PropertyTag) (dependent : Property) :
    Except Fault String :=
  match siblings.first? tag with
  | some property => .ok property.name
  | none => .error (.missingPrecondition siblings.entity dependent.name (.sibling tag))

end Siblings

namespace Property

/-- A built-in hook of a property around `method` of the sibling with the given tag. -/
def builtInHook (property : Property) (siblings : Siblings) (method : String) (tag : PropertyTag)
    (phase : HookPhase) (label : String) : Except Fault MethodHook := do
  let origin ← siblings.originName tag property
  pure { declaring := property.name, method, origin, phase, label }

/-- The arguments that insertion gains: the state of an active first lifecycle, then the parent of
every active parent link. -/
def insertArguments (siblings : Siblings) : List MethodArgument :=
  let state := match siblings.first? .lifecycle with
    | some lifecycle =>
        match lifecycle.isLegacy, lifecycle.kind with
        | false, .lifecycle category =>
            [{ method := "insert", name := "state", type := .choice category false }]
        | _, _ => []
    | none => []
  let parents := (siblings.allOf .linkedToParent).filterMap fun link =>
    match link.isLegacy, link.kind with
    | false, .linkedToParent parent =>
        some { method := "insert", name := parentArgumentName link.name, type := .objectId parent }
    | _, _ => none
  state ++ parents

/-- A parent link as the scope of a numbering, with the name of its argument and its parent; it has
to be settled before. -/
def linkScope? (siblings : Siblings) (link : Property) : Option (String × String × EntityKey) :=
  match (siblings.resolved? link.name).bind ResolvedSettings.parentArgument, link.kind with
  | some argument, .linkedToParent parent => some (link.name, argument, parent)
  | _, _ => none

/-- The scope of a numbering: the first parent link that was settled before. -/
def numberingScope? (siblings : Siblings) : Option (String × String × EntityKey) :=
  (siblings.allOf .linkedToParent).findSome? (linkScope? siblings)

/-- The first kind that a property needs beside it and that is missing. -/
def missingPrecondition? (property : Property) (siblings : Siblings) : Option PropertyTag :=
  property.tag.preconditions.find? fun required => !siblings.has required

/-- Resolve the settings of a property from its siblings. -/
def settle (property : Property) (siblings : Siblings) : Except Fault ResolvedSettings := do
  if let some required := property.missingPrecondition? siblings then
    throw (.missingPrecondition siblings.entity property.name (.sibling required))
  let hook := property.builtInHook siblings
  match property.kind with
  | .storedObject => pure { extraArguments := insertArguments siblings }
  | .numbered =>
      let automatic := property.isAutomaticNumbering
      let hooks ← if automatic then
          (fun assigned => [assigned]) <$>
            hook "insert" .storedObject (.pre false) "assign next number"
        else pure []
      match numberingScope? siblings with
      | some (link, argument, parent) =>
          pure {
            extraArguments :=
              [{ method := "renumber", name := argument, type := .objectId parent }]
            hooks
            automaticNumbering := automatic
            numberingScope := some link }
      | none => pure { hooks, automaticNumbering := automatic }
  | .lifecycle _ =>
      let default ← hook "insert" .storedObject (.pre false) "set default state"
      pure { hooks := [default] }
  | .schedule _ =>
      let propagate ← hook "reschedule" .timeSlot .post "propagate plan to dependent objects"
      pure { hooks := [propagate] }
  | .linkedToParent _ =>
      let check ← hook "insert" .storedObject (.pre false) "check parent is set"
      pure { hooks := [check], parentArgument := some (parentArgumentName property.name) }
  | .linkObject _ _ =>
      if property.linkConstraints.isEmpty then pure {}
      else
        let check ← hook "insert" .storedObject (.pre false) "check link constraints"
        pure { hooks := [check] }
  | .iterated =>
      let load ← hook "update" .uniqueIdentified (.pre true) "load previous iteration"
      let archive ← hook "update" .uniqueIdentified .post "archive previous iteration"
      pure { hooks := [load, archive] }
  | .versioned =>
      let start ← hook "insert" .storedObject .post "initialize first version"
      pure { hooks := [start] }
  | .simpleTaskWorkflow =>
      let generate ← hook "changestate" .lifecycle .post "generate workflow tasks"
      pure { hooks := [generate] }
  | .creationLog =>
      let stamp ← hook "insert" .storedObject (.pre false) "stamp creation user and time"
      pure { hooks := [stamp] }
  | .lastUpdate =>
      let onInsert ← hook "insert" .storedObject (.pre false) "stamp update user and time"
      let onUpdate ← hook "update" .uniqueIdentified (.pre false) "stamp update user and time"
      pure { hooks := [onInsert, onUpdate] }
  | .uniqueIdentified | .named | .targetDate | .timeSlot | .hasChildren _ _ | .leftForLink _ _
  | .rightForLink _ _ | .autolinkObject _ | .hasAutolink _ | .imageContent | .fileContent
  | .printOut => pure {}

/-- Settle properties in order, after those in `settled`. A failure leaves the rest as it was. -/
def settleFrom (entity : EntityKey) (all settled : List Property) :
    List Property → List Property × Option Fault
  | [] => (settled, none)
  | property :: rest =>
      match property.settle { entity, all, earlier := settled } with
      | .ok settings =>
          settleFrom entity all (settled ++ [{ property with resolved := some settings }]) rest
      | .error fault => (settled ++ property :: rest, some fault)

end Property

end EntitySurface
