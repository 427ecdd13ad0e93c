import EntitySurface.Entity
import EntitySurface.Json.Properties

/-!
# JSON forms of entities

Fields, stored elements, search widgets, display tabs, loader aliases and entities.
-/

namespace EntitySurface

open JsonForm

instance : JsonForm Field where
  toJson field := .object [
    ("name", toJson field.name), ("label", toJson field.label), ("field_type", toJson field.type),
    ("searchable", toJson field.searchable), ("indexed", toJson field.indexed),
    ("mandatory", toJson field.mandatory), ("description", toJson field.description)]
  readJson? source json := do
    let [name, label, type, searchable, indexed, mandatory, description] ←
      json.fields? ["name", "label", "field_type", "searchable", "indexed", "mandatory",
        "description"] | none
    some ⟨← required source name, ← required source label, ← required source type,
      ← required source searchable, ← required source indexed, ← required source mandatory,
      ← nullable source description⟩

instance : JsonForm StoredElement where
  toJson element := .object [
    ("name", toJson element.name), ("label", toJson element.label),
    ("field_type", toJson element.type), ("searchable", toJson element.searchable)]
  readJson? source json := do
    let [name, label, type, searchable] ←
      json.fields? ["name", "label", "field_type", "searchable"] | none
    some ⟨← required source name, ← required source label, ← required source type,
      ← required source searchable⟩

instance : JsonForm SearchWidget where
  toJson widget := .object [
    ("element", toJson widget.element), ("kind", toJson widget.kind),
    ("is_primary", toJson widget.isPrimary), ("label", toJson widget.label)]
  readJson? source json := do
    let [element, kind, isPrimary, label] ←
      json.fields? ["element", "kind", "is_primary", "label"] | none
    some ⟨← required source element, ← required source kind, ← required source isPrimary,
      ← required source label⟩

instance : JsonForm DisplayTab where
  toJson tab := .object [
    ("name", toJson tab.name), ("label", toJson tab.label),
    ("shows_property", toJson tab.showsProperty)]
  readJson? source json := do
    let [name, label, showsProperty] ← json.fields? ["name", "label", "shows_property"] | none
    some ⟨← required source name, ← required source label, ← required source showsProperty⟩

instance : JsonForm LoaderAlias where
  toJson entry := .object [("alias", toJson entry.header), ("column", toJson entry.column)]
  readJson? source json := do
    let [header, column] ← json.fields? ["alias", "column"] | none
    some ⟨← required source header, ← required source column⟩

instance : JsonForm Entity where
  toJson entity := .object [
    ("key", toJson entity.key), ("label", toJson entity.label),
    ("description", toJson entity.description), ("fields", toJson entity.fields),
    ("properties", toJson entity.properties), ("extra_tabs", toJson entity.extraTabs),
    ("loader_aliases", toJson entity.loaderAliases),
    ("search_widgets", toJson entity.searchWidgets), ("finalized", toJson entity.finalized)]
  readJson? source json := do
    let [key, label, description, fields, properties, extraTabs, loaderAliases, searchWidgets,
        finalized] ←
      json.fields? ["key", "label", "description", "fields", "properties", "extra_tabs",
        "loader_aliases", "search_widgets", "finalized"] | none
    some ⟨← required source key, ← required source label, ← nullable source description,
      ← required source fields, ← required source properties, ← required source extraTabs,
      ← required source loaderAliases, ← required source searchWidgets, ← required source finalized⟩

end EntitySurface
