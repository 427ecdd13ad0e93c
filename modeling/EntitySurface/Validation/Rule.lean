import EntitySurface.Schema.Basic
import EntitySurface.Validation.Report

/-!
# Validation rules

Composition refuses what would make a single entity inconsistent. The rules here look at a schema as
a whole: names, bindings, the shapes of links and schedules, states against lifecycles. All rules
run, so that all problems are seen at once.
-/

namespace EntitySurface

/-- The checks of a schema. -/
inductive ValidationRule where
  | entityNames
  | genericBindings
  | linkExclusivity
  | scheduleDependency
  | linkRules
  | loaderAliases
  | surface
  deriving DecidableEq

/-- Where a property stands. -/
def propertyPath (entity : Entity) (property : Property) : Option String :=
  some (entity.key.text ++ "." ++ property.name)

namespace Schema

/-- The entity names start with an uppercase letter, and no two of one namespace are equal up to
case. Entities without a description are warned about. -/
def checkEntityNames (schema : Schema) : Report :=
  .mergeAll (go [] schema.entities)
where
  go (seen : List (String × String)) : List Entity → List Report
    | [] => []
    | entity :: rest =>
        let name := entity.key.name
        let path := some entity.key.text
        let folded := (entity.key.space, Text.lowercase name)
        let startsUpper := name.toList.head?.any Char.isUpper
        let shape : List ErrorFinding :=
          if Name.isIdentifier name && startsUpper then []
          else [{ code := .invalidEntityName
                  message := "Entity name '" ++ name ++ "' is not PascalCase", path
                  suggestion := some "Start with an uppercase letter" }]
        let double : List ErrorFinding :=
          if seen.contains folded then
            [{ code := .duplicateEntityName
               message := "Entity name '" ++ name ++ "' differs from another only by case", path }]
          else []
        let warnings : List WarningFinding :=
          if entity.description.isNone then
            [{ code := .noDescription, message := "Entity '" ++ name ++ "' has no description"
               path }]
          else []
        { errors := shape ++ double, warnings } :: go (folded :: seen) rest

/-- The binding names an entity or category of the schema. -/
def resolves (schema : Schema) : BindingTarget → Bool
  | .entity key => schema.contains key
  | .choice key => (schema.catalog.category? key).isSome

/-- Every binding of every property resolves. -/
def checkBindings (schema : Schema) : Report :=
  { errors := schema.entities.flatMap fun entity =>
      entity.properties.flatMap fun property =>
        (property.kind.bindings.filter fun binding => !schema.resolves binding.target).map
          fun binding =>
            { code := .unresolvedBinding
              message := "Generic '" ++ binding.name ++ "' of '" ++ property.name
                ++ "' references unknown " ++ binding.target.text
              path := propertyPath entity property } }

/-- No entity is both a link and an auto-link. -/
def checkLinkExclusivity (schema : Schema) : Report :=
  { errors := (schema.entities.filter fun entity => entity.isLink && entity.isAutolink).map
      fun entity =>
        { code := .exclusiveLinkRoles
          message := "Entity '" ++ entity.key.name ++ "' is both a link and an auto-link"
          path := some entity.key.text } }

/-- The entity has an active link object that joins objects of `scheduled` to each other. -/
def linksToItself (link : Entity) (scheduled : EntityKey) : Bool :=
  (link.propertiesOf .linkObject).any fun property =>
    property.kind == .linkObject scheduled scheduled

/-- The dependency of a schedule links the scheduled entity to itself. -/
def checkScheduleDependencies (schema : Schema) : Report :=
  { errors := schema.entities.flatMap fun entity =>
      (entity.propertiesOf .schedule).flatMap fun property =>
        match property.kind with
        | .schedule dependency =>
            if (schema.entity? dependency).any fun link => linksToItself link entity.key then []
            else
              [{ code := .invalidScheduleDependency
                 message := "Dependency '" ++ dependency.text
                   ++ "' must be a link object between two '" ++ entity.key.name ++ "' objects"
                 path := propertyPath entity property }]
        | _ => [] }

/-- The entity has an active parent link to `parent`. -/
def hasParent (entity : Option Entity) (parent : EntityKey) : Bool :=
  entity.any fun found =>
    found.parentLinks.any fun link => link.kind == .linkedToParent parent

/-- Why a linked entity cannot be restricted to states. -/
def stateProblem? (schema : Schema) (side : Option Entity) (states : List String) :
    Option String :=
  match side with
  | none => some "linked entity is unknown"
  | some side =>
      match (side.firstOf? .lifecycle).map Property.kind with
      | some (.lifecycle category) =>
          match schema.catalog.category? category with
          | none => some ("category '" ++ category.text ++ "' is not registered")
          | some registered =>
              (states.find? fun state => !registered.contains state).map fun state =>
                "state '" ++ state ++ "' is not in '" ++ registered.key.text ++ "'"
      | _ => some ("'" ++ side.key.name ++ "' has no lifecycle")

/-- What a rule of a link between two entities demands of them and does not find. -/
def linkRuleFindings (schema : Schema) (path : Option String) (left right : EntityKey)
    (rule : BusinessRule) : List ErrorFinding :=
  let restricted (side : EntityKey) (states : List String) : List ErrorFinding :=
    match schema.stateProblem? (schema.entity? side) states with
    | some problem =>
        [{ code := .invalidStateRestriction, message := rule.name ++ ": " ++ problem, path }]
    | none => []
  match rule with
  | .sameParent parent =>
      if hasParent (schema.entity? left) parent && hasParent (schema.entity? right) parent then []
      else
        [{ code := .invalidSameParent
           message := "Both '" ++ left.text ++ "' and '" ++ right.text
             ++ "' need a parent link to '" ++ parent.text ++ "'"
           path }]
  | .leftStateRestriction states => restricted left states
  | .rightStateRestriction states => restricted right states
  | _ => []

/-- The rules of links fit the linked entities. -/
def checkLinkRules (schema : Schema) : Report :=
  { errors := schema.entities.flatMap fun entity =>
      (entity.propertiesOf .linkObject).flatMap fun property =>
        match property.kind with
        | .linkObject left right =>
            property.rules.flatMap
              (schema.linkRuleFindings (propertyPath entity property) left right)
        | _ => [] }

/-- Loader aliases name columns, and do not hide another column. -/
def checkLoaderAliases (schema : Schema) : Report :=
  .mergeAll <| schema.entities.flatMap fun entity =>
    entity.loaderAliases.map fun entry =>
      let path := some (entity.key.text ++ ".aliases." ++ entry.header)
      if !entity.hasColumn entry.column then
        { errors := [{
            code := .unresolvedLoaderAlias
            message := "Alias '" ++ entry.header ++ "' targets unknown column '" ++ entry.column
              ++ "'"
            path }] }
      else if entry.header != entry.column && entity.hasColumn entry.header then
        { warnings := [{
            code := .aliasShadowsColumn
            message := "Alias '" ++ entry.header ++ "' hides the column of the same name", path }] }
      else {}

/-- Entities that will get a thin surface are warned about. -/
def checkSurfaces (schema : Schema) : Report :=
  { warnings := schema.entities.flatMap fun entity =>
      let path := some entity.key.text
      if !entity.hasKind .uniqueIdentified then
        [{ code := .noUniqueIdentity
           message := "Entity '" ++ entity.key.name
             ++ "' has no unique identity; only creation is generated"
           path }]
      else if entity.hasShowSurface && entity.primaryWidgets.isEmpty then
        [{ code := .noSearchWidgets
           message := "Search page of '" ++ entity.key.name ++ "' has no criteria", path }]
      else [] }

end Schema

namespace ValidationRule

/-- All rules in the order in which they run. -/
def standard : List ValidationRule :=
  [entityNames, genericBindings, linkExclusivity, scheduleDependency, linkRules, loaderAliases,
    surface]

/-- The name by which the rule is chosen. -/
def name : ValidationRule → String
  | entityNames => "entity_names"
  | genericBindings => "generic_bindings"
  | linkExclusivity => "link_exclusivity"
  | scheduleDependency => "schedule_dependency"
  | linkRules => "link_rules"
  | loaderAliases => "loader_aliases"
  | surface => "surface"

/-- The rule of a name. -/
def ofName? (name : String) : Option ValidationRule :=
  standard.find? fun rule => rule.name == name

/-- What the rule is for, in one sentence. -/
def description : ValidationRule → String
  | entityNames => "Validates that entity names are PascalCase and unique within a namespace"
  | genericBindings =>
      "Validates that property generics reference existing entities and choice categories"
  | linkExclusivity => "Validates that link and auto-link roles are not combined"
  | scheduleDependency =>
      "Validates that schedule dependencies link the scheduled entity to itself"
  | linkRules => "Validates same-parent and state restriction rules against the linked entities"
  | loaderAliases => "Validates that loader aliases reference existing columns"
  | surface => "Warns about entities that will get a thin generated surface"

/-- What the rule finds in a schema. -/
def check (rule : ValidationRule) (schema : Schema) : Report :=
  match rule with
  | entityNames => schema.checkEntityNames
  | genericBindings => schema.checkBindings
  | linkExclusivity => schema.checkLinkExclusivity
  | scheduleDependency => schema.checkScheduleDependencies
  | linkRules => schema.checkLinkRules
  | loaderAliases => schema.checkLoaderAliases
  | surface => schema.checkSurfaces

end ValidationRule

/-- Run rules in order and put their findings together. -/
def Schema.validate (schema : Schema) (rules : List ValidationRule) : Report :=
  .mergeAll (rules.map fun rule => rule.check schema)

end EntitySurface
