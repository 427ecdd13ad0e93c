import EntitySurface.ActionGroup
import EntitySurface.Json.Form
import EntitySurface.Property.Basic
import EntitySurface.Search.Widget

/-!
# JSON forms of the basic types

Keys, scalar types, group kinds, tags, phases, search elements and widget kinds.
-/

namespace EntitySurface

open JsonForm

instance : JsonForm EntityKey where
  toJson key := .object [("namespace", toJson key.space), ("name", toJson key.name)]
  readJson? source json := do
    let [space, name] ← json.fields? ["namespace", "name"] | none
    some ⟨← required source space, ← required source name⟩

instance : JsonForm ChoiceKey where
  toJson key := .object [("namespace", toJson key.space), ("name", toJson key.name)]
  readJson? source json := do
    let [space, name] ← json.fields? ["namespace", "name"] | none
    some ⟨← required source space, ← required source name⟩

instance : JsonForm FieldType where
  toJson
    | .text maxLength => Json.withTag "type" "text" [("max_length", toJson maxLength)]
    | .choice category multiple =>
        Json.withTag "type" "choice"
          [("category", toJson category), ("multiple", toJson multiple)]
    | .decimal precision scale =>
        Json.withTag "type" "decimal" [("precision", toJson precision), ("scale", toJson scale)]
    | .integer => Json.withTag "type" "integer" []
    | .boolean => Json.withTag "type" "boolean" []
    | .date => Json.withTag "type" "date" []
    | .timestamp => Json.withTag "type" "timestamp" []
    | .binary => Json.withTag "type" "binary" []
    | .objectId entity => Json.withTag "type" "object_id" [("entity", toJson entity)]
  readJson? source json := do
    let (tag, rest) ← json.tagged? source "type" ["text", "choice", "decimal", "integer", "boolean",
      "date", "timestamp", "binary", "object_id"]
    match tag with
    | "text" => do
        let [maxLength] ← rest.fields? ["max_length"] | none
        some (.text (← required .tagged maxLength))
    | "choice" => do
        let [category, multiple] ← rest.fields? ["category", "multiple"] | none
        some (.choice (← required .tagged category) (← required .tagged multiple))
    | "decimal" => do
        let [precision, scale] ← rest.fields? ["precision", "scale"] | none
        some (.decimal (← required .tagged precision) (← required .tagged scale))
    | "object_id" => do
        let [entity] ← rest.fields? ["entity"] | none
        some (.objectId (← required .tagged entity))
    | "integer" => (rest.fields? []).map fun _ => .integer
    | "boolean" => (rest.fields? []).map fun _ => .boolean
    | "date" => (rest.fields? []).map fun _ => .date
    | "timestamp" => (rest.fields? []).map fun _ => .timestamp
    | "binary" => (rest.fields? []).map fun _ => .binary
    | _ => none

instance : JsonForm GroupKind where
  toJson kind := word kind.word
  readJson? source json := (readWord source json).bind GroupKind.ofWord?

instance : JsonForm PropertyTag where
  toJson tag := word tag.label
  readJson? source json := (readWord source json).bind PropertyTag.ofLabel?

instance : JsonForm Visibility where
  toJson
    | .active => word "Active"
    | .legacy => word "Legacy"
  readJson? source json := do
    match ← readWord source json with
    | "Active" => some .active
    | "Legacy" => some .legacy
    | _ => none

instance : JsonForm HookPhase where
  toJson
    | .pre preliminary => variant "Pre" [("preliminary", toJson preliminary)]
    | .post => word "Post"
  readJson? source json := do
    match ← readVariant source json with
    | ("Pre", some fields) => do
        let [preliminary] ← variantFields source ["preliminary"] fields | none
        some (.pre (← required source preliminary))
    | ("Post", none) => some .post
    | _ => none

instance : JsonForm ElementRef where
  toJson
    | .field name => .object [("Field", toJson name)]
    | .property property element =>
        variant "Property" [("property", toJson property), ("element", toJson element)]
  readJson? source json := do
    match ← readVariant source json with
    | ("Field", some name) => (readJson? source name).map .field
    | ("Property", some fields) => do
        let [property, element] ← variantFields source ["property", "element"] fields | none
        some (.property (← required source property) (← required source element))
    | _ => none

instance : JsonForm WidgetKind where
  toJson
    | .text => word "Text"
    | .choice category => variant "Choice" [("category", toJson category)]
    | .dateRange => word "DateRange"
    | .exact => word "Exact"
  readJson? source json := do
    match ← readVariant source json with
    | ("Text", none) => some .text
    | ("Choice", some fields) => do
        let [category] ← variantFields source ["category"] fields | none
        some (.choice (← required source category))
    | ("DateRange", none) => some .dateRange
    | ("Exact", none) => some .exact
    | _ => none

end EntitySurface
