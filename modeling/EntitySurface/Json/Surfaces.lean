import EntitySurface.HookChain
import EntitySurface.Json.Properties
import EntitySurface.Surface

/-!
# JSON forms of surfaces

Arguments, operations, pages, menu entries, action groups, search plans, search inputs, hook chains
and surfaces.
-/

namespace EntitySurface

open JsonForm

instance : JsonForm Uuid where
  toJson uuid := toJson uuid.text
  readJson? _ json := json.string?.bind Uuid.parse?

instance : JsonForm ArgumentKind where
  toJson
    | .object entity => Json.withTag "kind" "object" [("entity", toJson entity)]
    | .objects entity => Json.withTag "kind" "objects" [("entity", toJson entity)]
    | .value type => Json.withTag "kind" "value" [("field_type", toJson type)]
    | .values type => Json.withTag "kind" "values" [("field_type", toJson type)]
    | .dateRange => Json.withTag "kind" "date_range" []
    | .file => Json.withTag "kind" "file" []
  readJson? source json := do
    let (tag, rest) ← json.tagged? source "kind" ["object", "objects", "value", "values",
      "date_range", "file"]
    match tag with
    | "object" => do
        let [entity] ← rest.fields? ["entity"] | none
        some (.object (← required .tagged entity))
    | "objects" => do
        let [entity] ← rest.fields? ["entity"] | none
        some (.objects (← required .tagged entity))
    | "value" => do
        let [type] ← rest.fields? ["field_type"] | none
        some (.value (← required .tagged type))
    | "values" => do
        let [type] ← rest.fields? ["field_type"] | none
        some (.values (← required .tagged type))
    | "date_range" => (rest.fields? []).map fun _ => .dateRange
    | "file" => (rest.fields? []).map fun _ => .file
    | _ => none

instance : JsonForm Argument where
  toJson argument := .object [
    ("name", toJson argument.name), ("kind", toJson argument.kind),
    ("optional", toJson argument.optional)]
  readJson? source json := do
    let [name, kind, isOptional] ← json.fields? ["name", "kind", "optional"] | none
    some ⟨← required source name, ← required source kind, ← required source isOptional⟩

instance : JsonForm Operation where
  toJson operation := .object [
    ("id", toJson operation.id), ("entity", toJson operation.entity),
    ("name", toJson operation.name), ("inputs", toJson operation.inputs),
    ("outputs", toJson operation.outputs), ("access_criterion", toJson operation.criterion),
    ("groups", toJson operation.groups)]
  readJson? source json := do
    let [id, entity, name, inputs, outputs, criterion, groups] ←
      json.fields? ["id", "entity", "name", "inputs", "outputs", "access_criterion", "groups"]
      | none
    some ⟨← required source id, ← required source entity, ← required source name,
      ← required source inputs, ← required source outputs, ← nullable source criterion,
      ← required source groups⟩

instance : JsonForm Page where
  toJson page := .object [
    ("entity", toJson page.entity), ("name", toJson page.name), ("inputs", toJson page.inputs),
    ("linked_operation", toJson page.linkedOperation), ("tabs", toJson page.tabs)]
  readJson? source json := do
    let [entity, name, inputs, linkedOperation, tabs] ←
      json.fields? ["entity", "name", "inputs", "linked_operation", "tabs"] | none
    some ⟨← required source entity, ← required source name, ← required source inputs,
      ← required source linkedOperation, ← required source tabs⟩

instance : JsonForm MenuEntry where
  toJson entry := .object [
    ("entity", toJson entry.entity), ("page", toJson entry.page), ("label", toJson entry.label)]
  readJson? source json := do
    let [entity, page, label] ← json.fields? ["entity", "page", "label"] | none
    some ⟨← required source entity, ← required source page, ← required source label⟩

instance : JsonForm ActionGroup where
  toJson group := .object [
    ("kind", toJson group.kind), ("name", toJson group.name),
    ("operations", toJson group.operations)]
  readJson? source json := do
    let [kind, name, operations] ← json.fields? ["kind", "name", "operations"] | none
    some ⟨← required source kind, ← required source name, ← required source operations⟩

instance : JsonForm GroupSet where
  toJson set := .object [("entity", toJson set.entity), ("groups", toJson set.groups)]
  readJson? source json := do
    let [entity, groups] ← json.fields? ["entity", "groups"] | none
    some ⟨← required source entity, ← required source groups⟩

instance : JsonForm PlannedWidget where
  toJson widget := .object [
    ("argument", toJson widget.argument), ("column", toJson widget.column),
    ("kind", toJson widget.kind), ("is_primary", toJson widget.isPrimary)]
  readJson? source json := do
    let [argument, column, kind, isPrimary] ←
      json.fields? ["argument", "column", "kind", "is_primary"] | none
    some ⟨← required source argument, ← required source column, ← required source kind,
      ← required source isPrimary⟩

instance : JsonForm SearchOrdering where
  toJson ordering := .object [
    ("column", toJson ordering.column), ("descending", toJson ordering.descending)]
  readJson? source json := do
    let [column, descending] ← json.fields? ["column", "descending"] | none
    some ⟨← required source column, ← required source descending⟩

instance : JsonForm SearchPlan where
  toJson plan := .object [
    ("entity", toJson plan.entity), ("widgets", toJson plan.widgets),
    ("ordering", toJson plan.ordering)]
  readJson? source json := do
    let [entity, widgets, ordering] ← json.fields? ["entity", "widgets", "ordering"] | none
    some ⟨← required source entity, ← required source widgets, ← nullable source ordering⟩

instance : JsonForm Surface where
  toJson surface := .object [
    ("entity", toJson surface.entity), ("operations", toJson surface.operations),
    ("pages", toJson surface.pages), ("groups", toJson surface.groups),
    ("menu_entries", toJson surface.menuEntries), ("search_plan", toJson surface.searchPlan)]
  readJson? source json := do
    let [entity, operations, pages, groups, menuEntries, searchPlan] ←
      json.fields? ["entity", "operations", "pages", "groups", "menu_entries", "search_plan"]
      | none
    some ⟨← required source entity, ← required source operations, ← required source pages,
      ← required source groups, ← required source menuEntries, ← nullable source searchPlan⟩

instance : JsonForm HookStatement where
  toJson
    | .materializeBatch property =>
        Json.withTag "statement" "materialize_batch" [("property", toJson property)]
    | .invokeHook property label phase batched =>
        Json.withTag "statement" "invoke_hook" [
          ("property", toJson property), ("label", toJson label), ("phase", toJson phase),
          ("batched", toJson batched)]
    | .methodBody method origin bulk =>
        Json.withTag "statement" "method_body" [
          ("method", toJson method), ("origin", toJson origin), ("massive", toJson bulk)]
  readJson? source json := do
    let (tag, rest) ← json.tagged? source "statement" ["materialize_batch", "invoke_hook",
      "method_body"]
    match tag with
    | "materialize_batch" => do
        let [property] ← rest.fields? ["property"] | none
        some (.materializeBatch (← required .tagged property))
    | "invoke_hook" => do
        let [property, label, phase, batched] ←
          rest.fields? ["property", "label", "phase", "batched"] | none
        some (.invokeHook (← required .tagged property) (← required .tagged label)
          (← required .tagged phase) (← required .tagged batched))
    | "method_body" => do
        let [method, origin, bulk] ← rest.fields? ["method", "origin", "massive"] | none
        some (.methodBody (← required .tagged method) (← required .tagged origin)
          (← required .tagged bulk))
    | _ => none

instance : JsonForm HookChain where
  toJson chain := .object [
    ("entity", toJson chain.entity), ("method", toJson chain.method),
    ("origin", toJson chain.origin), ("massive", toJson chain.bulk),
    ("preliminary", toJson chain.preliminary), ("pre", toJson chain.pre),
    ("post", toJson chain.post)]
  readJson? source json := do
    let [entity, method, origin, bulk, preliminary, pre, post] ←
      json.fields? ["entity", "method", "origin", "massive", "preliminary", "pre", "post"] | none
    some ⟨← required source entity, ← required source method, ← required source origin,
      ← required source bulk, ← required source preliminary, ← required source pre,
      ← required source post⟩

instance : JsonForm SearchInput where
  toJson
    | .text value => Json.withTag "type" "text" [("value", toJson value)]
    | .choices codes => Json.withTag "type" "choices" [("value", toJson codes)]
    | .dateRange from? to? =>
        Json.withTag "type" "date_range"
          [("value", .object [("from", toJson from?), ("to", toJson to?)])]
    | .exact value => Json.withTag "type" "exact" [("value", toJson value)]
  readJson? source json := do
    let [type, value] ← json.fields? ["type", "value"] | none
    match ← type.bind (readWord source) with
    | "text" => (nullable source value).map .text
    | "choices" => (required source value).map .choices
    | "date_range" => do
        let members ← (← value).object?
        let [from?, to?] ← (Json.object members).fields? ["from", "to"] | none
        some (.dateRange (← nullable source from?) (← nullable source to?))
    | "exact" => (nullable source value).map .exact
    | _ => none

end EntitySurface
