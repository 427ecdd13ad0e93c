import EntitySurface.Derivation.Arguments
import EntitySurface.Json.Entities
import EntitySurface.Json.Surfaces
import EntitySurface.Schema.Basic

/-!
# Overviews

What can be asked of properties, entities, hook chains, categories and schemas, gathered in one JSON
record each.
-/

namespace EntitySurface

namespace Property

/-- The members of an overview. -/
def overview (property : Property) : List (String × Json) :=
  [("property", toJson property), ("tag", toJson property.tag),
   ("elements", toJson property.elements), ("generics", toJson property.kind.bindings),
   ("methods", toJson property.kind.methods), ("hooks", toJson property.hooks),
   ("insert_arguments", toJson (property.extraArguments "insert")),
   ("renumber_arguments", toJson (property.extraArguments "renumber")),
   ("is_legacy", toJson property.isLegacy), ("is_sub_object", toJson property.isSubObject),
   ("is_automatic_numbering", toJson property.isAutomaticNumbering),
   ("is_symmetric", toJson property.isSymmetric),
   ("link_constraints", toJson (property.linkConstraints.map BusinessRule.text))]

/-- Name, kind, visibility and rules in one line. -/
def line (property : Property) : String :=
  " ".intercalate ((property.name ++ ":" ++ property.tag.label)
    :: (if property.isLegacy then ["legacy"] else []) ++ property.rules.map BusinessRule.text)

end Property

/-- An argument with its text. -/
def Argument.overview (argument : Argument) : Json :=
  .object [("argument", toJson argument), ("text", toJson argument.text)]

/-- A category with its values and what is computed from them. -/
def ChoiceCategory.overview (category : ChoiceCategory) : Json :=
  .object [
    ("key", toJson category.key.text),
    ("values", .array (category.values.map fun value =>
      .object [("code", toJson value.code), ("label", toJson value.label)])),
    ("default", toJson (category.default?.map ChoiceValue.code)),
    ("max_code_length", .natural category.maxCodeLength)]

namespace HookChain

/-- A chain with what it weaves. -/
def overview (chain : HookChain) : Json :=
  .object [
    ("chain", toJson chain), ("is_empty", toJson chain.isEmpty),
    ("hook_count", .natural chain.hooks.length), ("order", toJson chain.order),
    ("statements", toJson chain.statements),
    ("texts", toJson (chain.statements.map HookStatement.text))]

/-- The method of the chain with the texts of its steps. -/
def brief (chain : HookChain) : Json :=
  .object [
    ("target", toJson (chain.origin ++ "." ++ chain.method)), ("massive", toJson chain.bulk),
    ("texts", toJson (chain.statements.map HookStatement.text))]

end HookChain

namespace Entity

/-- An entity with what can be asked of it. -/
def overview (entity : Entity) : Json :=
  .object [
    ("definition", toJson entity), ("columns", toJson entity.columns),
    ("active", toJson (entity.activeProperties.map Property.name)),
    ("parent_links", toJson (entity.parentLinks.map Property.name)),
    ("sub_object_link", toJson (entity.subObjectLink?.map Property.name)),
    ("is_sub_object", toJson entity.isSubObject), ("is_link", toJson entity.isLink),
    ("is_autolink", toJson entity.isAutolink), ("has_show_surface", toJson entity.hasShowSurface),
    ("primary_widgets", toJson (entity.primaryWidgets.map SearchWidget.argumentName))]

/-- The names and arguments that derivation makes from an entity. -/
def derivationOverview (entity : Entity) : Json :=
  .object [
    ("pascal_name", toJson entity.pascalName), ("module_name", toJson entity.moduleName),
    ("file_path", toJson entity.modulePath), ("instance", entity.objectArgument.overview),
    ("instances", entity.objectsArgument.overview),
    ("creation", .array (entity.creationArguments.map Argument.overview)),
    ("search", .array (entity.searchArguments.map Argument.overview)),
    ("search_page", .array (entity.searchPageArguments.map Argument.overview))]

/-- What grows while a schema is composed. -/
def progress (entity : Entity) : Json :=
  .object [
    ("key", toJson entity.key.text), ("finalized", toJson entity.finalized),
    ("columns", toJson entity.columns),
    ("properties", toJson (entity.properties.map Property.line)),
    ("widgets", toJson (entity.searchWidgets.map SearchWidget.argumentName))]

end Entity

namespace Schema

/-- A schema with its categories and the names of its entities. -/
def overview (schema : Schema) : Json :=
  .object [
    ("name", toJson schema.name), ("phase", toJson schema.phase.label),
    ("entity_count", .natural schema.entities.length), ("is_empty", toJson schema.entities.isEmpty),
    ("entities", toJson (schema.entities.map fun entity => entity.key.text)),
    ("namespaces", toJson schema.catalog.namespaces),
    ("categories", .array (schema.catalog.categories.map ChoiceCategory.overview))]

/-- What grows while a schema is composed. -/
def progress (schema : Schema) : Json :=
  .object [
    ("finalized", toJson schema.isFinalized),
    ("entities", .array (schema.entities.map Entity.progress))]

end Schema

end EntitySurface
