import EntitySurface.Json.Types

/-!
# JSON forms of properties

Business rules, property kinds and their parameters, methods, hooks, settings and properties.
-/

namespace EntitySurface

open JsonForm

instance : JsonForm BusinessRule where
  toJson
    | .sameParent parent => variant "SameParent" [("parent", toJson parent)]
    | .leftStateRestriction states => variant "LeftStateRestriction" [("states", toJson states)]
    | .rightStateRestriction states => variant "RightStateRestriction" [("states", toJson states)]
    | rule => word rule.name
  readJson? source json := do
    match ← readVariant source json with
    | ("SubObject", none) => some .subObject
    | ("ParentOwnsDeletion", none) => some .parentOwnsDeletion
    | ("AutomaticNumbering", none) => some .automaticNumbering
    | ("MaxOneForLeft", none) => some .maxOneForLeft
    | ("Symmetric", none) => some .symmetric
    | ("SameParent", some fields) => do
        let [parent] ← variantFields source ["parent"] fields | none
        some (.sameParent (← required source parent))
    | ("LeftStateRestriction", some fields) => do
        let [states] ← variantFields source ["states"] fields | none
        some (.leftStateRestriction (← required source states))
    | ("RightStateRestriction", some fields) => do
        let [states] ← variantFields source ["states"] fields | none
        some (.rightStateRestriction (← required source states))
    | _ => none

/-- The fields of a property kind that has any. -/
def PropertyKind.parameters : PropertyKind → List (String × Json)
  | .lifecycle category => [("category", toJson category)]
  | .schedule dependency => [("dependency", toJson dependency)]
  | .linkedToParent parent => [("parent", toJson parent)]
  | .hasChildren child link => [("child", toJson child), ("link", toJson link)]
  | .linkObject left right => [("left", toJson left), ("right", toJson right)]
  | .leftForLink link right => [("link", toJson link), ("right", toJson right)]
  | .rightForLink link left => [("link", toJson link), ("left", toJson left)]
  | .autolinkObject target => [("target", toJson target)]
  | .hasAutolink link => [("link", toJson link)]
  | _ => []

/-- The property kind of a tag that takes no parameters. -/
def PropertyTag.plainKind? : PropertyTag → Option PropertyKind
  | .storedObject => some .storedObject
  | .uniqueIdentified => some .uniqueIdentified
  | .named => some .named
  | .numbered => some .numbered
  | .targetDate => some .targetDate
  | .timeSlot => some .timeSlot
  | .iterated => some .iterated
  | .versioned => some .versioned
  | .simpleTaskWorkflow => some .simpleTaskWorkflow
  | .imageContent => some .imageContent
  | .fileContent => some .fileContent
  | .printOut => some .printOut
  | .creationLog => some .creationLog
  | .lastUpdate => some .lastUpdate
  | _ => none

instance : JsonForm PropertyKind where
  toJson kind :=
    match kind.parameters with
    | [] => word kind.tag.label
    | parameters => variant kind.tag.label parameters
  readJson? source json := do
    match ← readVariant source json with
    | (label, none) => (PropertyTag.ofLabel? label).bind PropertyTag.plainKind?
    | ("Lifecycle", some fields) => do
        let [category] ← variantFields source ["category"] fields | none
        some (.lifecycle (← required source category))
    | ("Schedule", some fields) => do
        let [dependency] ← variantFields source ["dependency"] fields | none
        some (.schedule (← required source dependency))
    | ("LinkedToParent", some fields) => do
        let [parent] ← variantFields source ["parent"] fields | none
        some (.linkedToParent (← required source parent))
    | ("HasChildren", some fields) => do
        let [child, link] ← variantFields source ["child", "link"] fields | none
        some (.hasChildren (← required source child) (← required source link))
    | ("LinkObject", some fields) => do
        let [left, right] ← variantFields source ["left", "right"] fields | none
        some (.linkObject (← required source left) (← required source right))
    | ("LeftForLink", some fields) => do
        let [link, right] ← variantFields source ["link", "right"] fields | none
        some (.leftForLink (← required source link) (← required source right))
    | ("RightForLink", some fields) => do
        let [link, left] ← variantFields source ["link", "left"] fields | none
        some (.rightForLink (← required source link) (← required source left))
    | ("AutolinkObject", some fields) => do
        let [target] ← variantFields source ["target"] fields | none
        some (.autolinkObject (← required source target))
    | ("HasAutolink", some fields) => do
        let [link] ← variantFields source ["link"] fields | none
        some (.hasAutolink (← required source link))
    | _ => none

instance : JsonForm BindingTarget where
  toJson
    | .entity key => .object [("Entity", toJson key)]
    | .choice key => .object [("Choice", toJson key)]
  readJson? source json := do
    match ← readVariant source json with
    | ("Entity", some key) => (readJson? source key).map .entity
    | ("Choice", some key) => (readJson? source key).map .choice
    | _ => none

instance : JsonForm Binding where
  toJson binding := .object [("name", toJson binding.name), ("target", toJson binding.target)]
  readJson? source json := do
    let [name, target] ← json.fields? ["name", "target"] | none
    some ⟨← required source name, ← required source target⟩

instance : JsonForm AccessMethod where
  toJson method := .object [
    ("name", toJson method.name), ("is_static", toJson method.isStatic),
    ("has_massive", toJson method.hasBulk)]
  readJson? source json := do
    let [name, isStatic, hasBulk] ← json.fields? ["name", "is_static", "has_massive"] | none
    some ⟨← required source name, ← required source isStatic, ← required source hasBulk⟩

instance : JsonForm MethodArgument where
  toJson argument := .object [
    ("method", toJson argument.method), ("name", toJson argument.name),
    ("field_type", toJson argument.type)]
  readJson? source json := do
    let [method, name, type] ← json.fields? ["method", "name", "field_type"] | none
    some ⟨← required source method, ← required source name, ← required source type⟩

instance : JsonForm MethodHook where
  toJson hook := .object [
    ("declaring_property", toJson hook.declaring), ("method", toJson hook.method),
    ("origin", toJson hook.origin), ("phase", toJson hook.phase), ("label", toJson hook.label)]
  readJson? source json := do
    let [declaring, method, origin, phase, label] ←
      json.fields? ["declaring_property", "method", "origin", "phase", "label"] | none
    some ⟨← required source declaring, ← required source method, ← required source origin,
      ← required source phase, ← required source label⟩

instance : JsonForm ResolvedSettings where
  toJson settings := .object [
    ("extra_arguments", toJson settings.extraArguments), ("hooks", toJson settings.hooks),
    ("automatic_numbering", toJson settings.automaticNumbering),
    ("numbering_scope", toJson settings.numberingScope),
    ("parent_argument", toJson settings.parentArgument)]
  readJson? source json := do
    let [extraArguments, hooks, automaticNumbering, numberingScope, parentArgument] ←
      json.fields? ["extra_arguments", "hooks", "automatic_numbering", "numbering_scope",
        "parent_argument"] | none
    some ⟨← required source extraArguments, ← required source hooks,
      ← required source automaticNumbering, ← nullable source numberingScope,
      ← nullable source parentArgument⟩

instance : JsonForm Property where
  toJson property := .object [
    ("name", toJson property.name), ("kind", toJson property.kind),
    ("rules", toJson property.rules), ("visibility", toJson property.visibility),
    ("owner", toJson property.owner), ("declared_hooks", toJson property.declaredHooks),
    ("resolved", toJson property.resolved)]
  readJson? source json := do
    let [name, kind, rules, visibility, owner, declaredHooks, resolved] ←
      json.fields? ["name", "kind", "rules", "visibility", "owner", "declared_hooks", "resolved"]
      | none
    some ⟨← required source name, ← required source kind, ← required source rules,
      ← required source visibility, ← nullable source owner, ← required source declaredHooks,
      ← nullable source resolved⟩

end EntitySurface
