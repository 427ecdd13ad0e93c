import EntitySurface.Derivation.Arguments

/-!
# Creating, showing and deleting objects

The operations on the objects of an entity as a whole: standard creation, the canonical surface of
showing, updating, loading and searching, the history of iterated and versioned objects, and
deletion in the variant that fits the structural role of the entity.
-/

namespace EntitySurface.Derivation

/-- An operation after the page that shows it. -/
def withPage (operation : Operation) (page : Page) : List Contribution :=
  [.page page, .operation operation]

/-- Standard creation. -/
def creation (entity : Entity) : List Contribution :=
  let arguments := entity.creationArguments
  let create := entity.guardedOperation ("StandardCreate" ++ entity.pascalName)
    (entity.objectArgument :: arguments) [entity.objectArgument] [.createNew]
  .operation (entity.operation ("PrepareStandardCreate" ++ entity.pascalName) arguments
      [entity.objectArgument] [.createNew])
    :: withPage create { Page.forOperation create with inputs := arguments }

/-- Show, update, mass update, flat-file loading and search. Sub-objects are reached through their
parent, so they get no menu entry. -/
def showing (entity : Entity) : List Contribution :=
  let name := entity.pascalName
  let one := [entity.objectArgument]
  let many := [entity.objectsArgument]
  let show' := entity.guardedOperation ("Show" ++ name) one one [.read, .executiveRead]
  let update := entity.guardedOperation ("Update" ++ name) one one [.modify]
  let search := entity.operation ("Search" ++ name) entity.searchArguments many
    [.lookup, .executiveRead]
  let searchPage := { Page.forOperation search with inputs := entity.searchPageArguments }
  withPage show'
      { Page.forOperation show' with tabs := entity.extraTabs.map DisplayTab.name }
    ++ [.operation (entity.guardedOperation ("PrepareUpdate" ++ name) one one [.modify])]
    ++ withPage update (.forOperation update)
    ++ [.operation (entity.guardedOperation ("MassUpdate" ++ name) many many [.modify]),
        .operation (entity.operation ("FlatFileLoad" ++ name) [fileArgument "flat_file"] many
          [.dataAdmin]),
        .operation (entity.operation ("FlatFileSample" ++ name) [] [fileArgument "sample_file"]
          [.dataAdmin])]
    ++ withPage search searchPage
    ++ [.searchPlan (.forEntity entity)]
    ++ if entity.isSubObject then []
      else [.menuEntry { entity := entity.key, page := searchPage.name, label := entity.label }]

/-- The history, and for versioned entities the steps from version to version. -/
def history (entity : Entity) : List Contribution :=
  let name := entity.pascalName
  let one := [entity.objectArgument]
  let show' := entity.guardedOperation ("ShowHistory" ++ name) one [entity.objectsArgument]
    [.read, .executiveRead]
  withPage show' (.forOperation show')
    ++ if entity.hasKind .versioned then
        [.operation (entity.guardedOperation ("NewVersion" ++ name) one one [.modify]),
         .operation (entity.guardedOperation ("ForceVersionAsLast" ++ name) one one
           [.businessAdmin])]
      else []

/-- The structural roles that an entity plays. -/
def structuralRoles (entity : Entity) : List StructuralRole :=
  (if entity.isSubObject then [.subObject] else [])
    ++ (if entity.isLink then [.link] else [])
    ++ if entity.isAutolink then [.autolink] else []

/-- Deletion in the variant of the entity's one structural role. -/
def deletion (entity : Entity) : Except Fault (List Contribution) :=
  let delete (start : String) (outputs : List Argument) : Contribution :=
    .operation (entity.guardedOperation (start ++ entity.pascalName) [entity.objectArgument] outputs
      [.full])
  if 1 < (structuralRoles entity).length then
    .error (.exclusiveFlags entity.key (structuralRoles entity))
  else
    match entity.subObjectLink? with
    | some link =>
        match link.parentArgument? with
        | some parent => .ok [delete "DeleteAndShowParent" [parent]]
        | none => .error (.orphanSubObject link.name)
    | none =>
        match (entity.firstOf? .linkObject).map Property.kind,
            (entity.firstOf? .autolinkObject).map Property.kind with
        | some (.linkObject left right), _ =>
            .ok [delete "DeleteLinkAndShowLeft" [leftArgument left],
              delete "DeleteLinkAndShowRight" [rightArgument right]]
        | some _, _ => .ok []
        | none, some (.autolinkObject target) =>
            .ok [delete "DeleteAutolinkAndShowObject" [target.objectArgument]]
        | none, some _ => .ok []
        | none, none => .ok [delete "Delete" []]

end EntitySurface.Derivation
