import EntitySurface.Derivation.Arguments

/-!
# Parents, links and children

The operations along the relations of an entity: changing parents, joining two objects by a link,
looking up the objects that a link may join, and loading or exporting children in bulk.
-/

namespace EntitySurface.Derivation

/-- Changing the parent of one object or of several along a parent link. -/
def parentChange (entity : Entity) (link : Property) : List Contribution :=
  match link.parentArgument? with
  | some parent =>
      let linkName := Text.pascalCase link.name
      [.operation (entity.guardedOperation
          ("ChangeParent" ++ entity.pascalName ++ "For" ++ linkName)
          [entity.objectArgument, parent] [entity.objectArgument] [.modify]),
       .operation (entity.guardedOperation
          ("MassUpdate" ++ entity.pascalName ++ "With" ++ linkName)
          [entity.objectsArgument, parent] [entity.objectsArgument] [.modify])]
  | none => []

/-- Changing the parent, per parent link; no two of them are sub-object links. -/
def parentChanges (entity : Entity) : Except Fault (List Contribution) :=
  match entity.parentLinks.filter Property.isSubObject with
  | first :: second :: _ => .error (.subObjectConflict entity.key first.name second.name)
  | _ => .ok (entity.parentLinks.flatMap (parentChange entity))

/-- The lookups that one link constraint asks for. Constraints repeat them; a surface keeps each
once. -/
def constraintLookups (entity : Entity) (left right : EntityKey) (rule : BusinessRule) :
    List Contribution :=
  let name := entity.pascalName
  [.operation (entity.guardedOperation ("SearchRightWithParent" ++ name) [leftArgument left]
      [right.objectsArgument] [.lookup, .read])]
    ++ (if rule.restrictsLeft then
        [.operation (entity.guardedOperation ("SearchLeftFor" ++ name) [rightArgument right]
          [left.objectsArgument] [.lookup])]
      else [])
    ++ if rule.restrictsRight then
        [.operation (entity.guardedOperation ("SearchRightFor" ++ name) [leftArgument left]
          [right.objectsArgument] [.lookup])]
      else []

/-- Creating a link, also together with a new right object, and the lookups of its constraints. -/
def linking (entity : Entity) : List Contribution :=
  match entity.firstOf? .linkObject with
  | some link =>
      match link.kind with
      | .linkObject left right =>
          let start := "CreateLink" ++ entity.pascalName
          let newRight : Argument :=
            { name := "new_" ++ Text.snakeCase right.name, kind := .object right }
          [.operation (entity.guardedOperation start [leftArgument left, rightArgument right]
              [entity.objectArgument] [.modify]),
           .operation (entity.guardedOperation (start ++ "WithRight") [leftArgument left, newRight]
              [entity.objectArgument, rightArgument right] [.modify]),
           .operation (entity.guardedOperation (start ++ "AndShowRight")
              [leftArgument left, rightArgument right] [rightArgument right] [.modify])]
            ++ link.linkConstraints.flatMap (constraintLookups entity left right)
      | _ => []
  | none => []

/-- Creating an auto-link and, unless it reads the same in both directions, showing its tree. -/
def autolinking (entity : Entity) : List Contribution :=
  match entity.firstOf? .autolinkObject with
  | some link =>
      match link.kind with
      | .autolinkObject target =>
          .operation (entity.guardedOperation ("CreateAutolink" ++ entity.pascalName)
              [leftArgument target, rightArgument target] [entity.objectArgument] [.modify])
            :: if link.isSymmetric then []
              else [.operation (entity.guardedOperation ("ShowAutolinkTree" ++ entity.pascalName)
                [target.objectArgument] [entity.objectsArgument] [.read])]
      | _ => []
  | none => []

/-- Bulk loading and export of each collection of children. -/
def childCollections (entity : Entity) : List Contribution :=
  (entity.propertiesOf .hasChildren).flatMap fun collection =>
    match collection.kind with
    | .hasChildren child _ =>
        let ending := Text.pascalCase child.name ++ "Under" ++ entity.pascalName
        [.operation (entity.guardedOperation ("BulkLoad" ++ ending)
            [entity.objectArgument, fileArgument "flat_file"] [child.objectsArgument]
            [.dataAdmin]),
         .operation (entity.guardedOperation ("Export" ++ ending) [entity.objectArgument]
            [fileArgument "export_file"] [.dataAdmin])]
    | _ => []

end EntitySurface.Derivation
