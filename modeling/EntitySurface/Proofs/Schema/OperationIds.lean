import EntitySurface.Proofs.Schema.Files
import EntitySurface.Proofs.Schema.Invariant
import EntitySurface.Proofs.Surface.Integrity

/-!
# Identifiers of operations

The identifier of an operation is computed from its qualified name, the written key of its entity
and its own name with a hash sign between. Keys have no hash signs, so that a qualified name tells
the entity and the operation, and in a project no two operations have the same qualified name. Two
operations could share an identifier only where two qualified names of the project have the same
digest.
-/

namespace EntitySurface

/-- The name of an operation within a project. -/
def Operation.qualifiedName (operation : Operation) : String :=
  operation.entity.text ++ "#" ++ operation.name

/-- The operations of all entities. -/
def Project.operations (project : Project) : List Operation :=
  project.surfaces.flatMap Surface.operations

/-- What stands before the first hash sign is the key, whatever the names of the operations are. -/
theorem Operation.qualifiedName_inj {first second : Operation} (firstNamed : first.entity.IsNamed)
    (secondNamed : second.entity.IsNamed) :
    first.qualifiedName = second.qualifiedName ↔
      first.entity = second.entity ∧ first.name = second.name := by
  have unhashed {key : EntityKey} (named : key.IsNamed) : '#' ∉ key.text.toList :=
    named.not_mem_text (by decide) (by decide)
  have around : first.qualifiedName.toList = second.qualifiedName.toList ↔
      first.entity.text.toList = second.entity.text.toList ∧
        first.name.toList = second.name.toList := by
    rw [← append_cons_inj_of_first (unhashed firstNamed) (unhashed secondNamed)]
    simp [qualifiedName]
  rw [← String.toList_inj, around, String.toList_inj, String.toList_inj,
    firstNamed.text_inj secondNamed]

/-- The operations of one entity have different qualified names. -/
theorem Surface.pairwise_qualifiedName_ne {surface : Surface} {rules : List DerivationRule}
    {entity : Entity} (named : entity.key.IsNamed)
    (derived : Surface.derive rules entity = .ok surface) :
    surface.operations.Pairwise fun first second =>
      first.qualifiedName ≠ second.qualifiedName := by
  have distinct := List.pairwise_map.mp (records_of_derive derived).operations.distinct
  refine distinct.imp_of_mem fun {first second} firstMem secondMem apart same => apart ?_
  have firstKey := (belongsTo_of_derive derived firstMem).entity
  have secondKey := (belongsTo_of_derive derived secondMem).entity
  exact ((Operation.qualifiedName_inj (firstKey ▸ named) (secondKey ▸ named)).mp same).2

namespace Schema

variable {schema : Schema} {settings : GenerationSettings} {rules : List DerivationRule}
  {project : Project}

/-- Every surface of a project is derived from an entity. -/
theorem exists_entity_of_generate (generated : schema.generate settings rules = .ok project)
    {surface : Surface} (mem : surface ∈ project.surfaces) :
    ∃ entity ∈ schema.entities, Surface.derive rules entity = .ok surface := by
  have paired := forall₂_surfaces_of_generate generated
  obtain ⟨position, inRange, rfl⟩ := List.getElem_of_mem mem
  have inEntities : position < schema.entities.length := paired.length_eq ▸ inRange
  exact ⟨_, List.getElem_mem inEntities, paired.get inEntities inRange⟩

/-- The surfaces of a project are for the keys of the schema, in order. -/
theorem map_entity_surfaces_of_generate (generated : schema.generate settings rules = .ok project) :
    project.surfaces.map Surface.entity = schema.entities.map Entity.key := by
  have paired : List.Forall₂ (fun entity surface => entity.key = surface.entity)
      schema.entities project.surfaces :=
    (forall₂_surfaces_of_generate generated).imp fun _ _ derived =>
      (Surface.records_of_derive derived).entity.symm
  have keys := List.forall₂_map_left_iff.mpr (List.forall₂_map_right_iff.mpr paired)
  rw [List.forall₂_eq_eq_eq] at keys
  exact keys.symm

namespace Reachable

/-- The qualified names of all operations of a project are different. -/
theorem nodup_qualifiedNames (reached : schema.Reachable)
    (generated : schema.generate settings rules = .ok project) :
    (project.operations.map Operation.qualifiedName).Nodup := by
  rw [List.Nodup, List.pairwise_map, Project.operations, List.pairwise_flatMap]
  have keys : (project.surfaces.map Surface.entity).Nodup := by
    rw [map_entity_surfaces_of_generate generated]
    exact reached.wellFormed.nodup_keys
  constructor
  · intro surface mem
    obtain ⟨entity, stored, derived⟩ := exists_entity_of_generate generated mem
    exact Surface.pairwise_qualifiedName_ne (reached.isNamed stored) derived
  · refine (List.pairwise_map.mp keys).imp_of_mem
      fun {surface other} mem otherMem apart first firstMem second secondMem same => apart ?_
    obtain ⟨entity, stored, derived⟩ := exists_entity_of_generate generated mem
    obtain ⟨otherEntity, otherStored, otherDerived⟩ :=
      exists_entity_of_generate generated otherMem
    have firstKey := (Surface.belongsTo_of_derive derived firstMem).entity
    have secondKey := (Surface.belongsTo_of_derive otherDerived secondMem).entity
    have keysAgree := ((Operation.qualifiedName_inj (firstKey ▸ reached.isNamed stored)
      (secondKey ▸ reached.isNamed otherStored)).mp same).1
    rw [(Surface.records_of_derive derived).entity,
      (Surface.records_of_derive otherDerived).entity, ← firstKey, ← secondKey, keysAgree]

/-- The operations of a project have the identifiers of their qualified names, and a qualified name
tells the entity and the operation. So the identifiers are different exactly when identifiers tell
the qualified names of the project apart. -/
theorem operation_ids (reached : schema.Reachable)
    (generated : schema.generate settings rules = .ok project) :
    project.surfaces.map Surface.entity = schema.entities.map Entity.key ∧
    (∀ surface ∈ project.surfaces, ∀ operation ∈ surface.operations,
      operation.entity = surface.entity ∧
        operation.id = Uuid.ofName operation.qualifiedName) ∧
    (∀ first ∈ project.operations, ∀ second ∈ project.operations,
      first.qualifiedName = second.qualifiedName → first = second) ∧
    ((project.operations.map Operation.id).Nodup ↔
      ∀ first ∈ project.operations.map Operation.qualifiedName,
        ∀ second ∈ project.operations.map Operation.qualifiedName,
          Uuid.ofName first = Uuid.ofName second → first = second) := by
  have distinct := reached.nodup_qualifiedNames generated
  have identified : ∀ surface ∈ project.surfaces, ∀ operation ∈ surface.operations,
      operation.entity = surface.entity ∧
        operation.id = Uuid.ofName operation.qualifiedName := by
    intro surface inProject operation mem
    obtain ⟨entity, -, derived⟩ := exists_entity_of_generate generated inProject
    have belongs := Surface.belongsTo_of_derive derived mem
    rw [(Surface.records_of_derive derived).entity, belongs.id, Operation.qualifiedName,
      belongs.entity]
    exact ⟨rfl, rfl⟩
  have ids : project.operations.map Operation.id =
      (project.operations.map Operation.qualifiedName).map Uuid.ofName := by
    rw [List.map_map]
    refine List.map_congr_left fun operation mem => ?_
    obtain ⟨surface, inProject, inSurface⟩ := List.mem_flatMap.mp mem
    exact (identified surface inProject operation inSurface).2
  refine ⟨map_entity_surfaces_of_generate generated, identified,
    fun first firstMem second secondMem => ?_, ?_⟩
  · exact List.inj_on_of_nodup_map distinct firstMem secondMem
  · rw [ids, List.nodup_map_iff_inj_on distinct]

/-- Orders that are stored, and archived orders that are not. -/
def storedOrders : List Command :=
  [.entity "sales" "Order" "Order", Demo.attach Demo.Sales.order (.ofKind .storedObject),
   .entity "archive.sales" "Order" "Archived order", .finish]

/-- The qualified names of the operations of `storedOrders`. -/
def storedOrderOperations : List String :=
  ["sales.Order#PrepareStandardCreateOrder", "sales.Order#StandardCreateOrder"]

/-- The two operations of the project have different identifiers. -/
theorem operation_ids_storedOrders :
    let schema := (({ name := "sales" } : Schema).executeAll storedOrders).1
    ∃ project, schema.generate {} = .ok project ∧
      project.operations.map Operation.qualifiedName = storedOrderOperations ∧
      (project.operations.map Operation.id).Nodup := by
  intro schema
  have reached : schema.Reachable := (Reachable.start "sales").executeAll storedOrders
  have derives : (schema.deriveAll DerivationRule.standard).toOption.map (fun found =>
      ((found.2.map DerivedEntity.surface).flatMap Surface.operations).map
        Operation.qualifiedName) = some storedOrderOperations := by
    decide +kernel
  obtain ⟨project, generated⟩ := exists_generate_of_deriveAll {}
    (by simpa using congrArg Option.isSome derives)
  obtain ⟨warnings, derived, files, outcome, -, rfl⟩ := exists_assemble_of_generate generated
  have names : (Project.operations (.assemble schema true warnings derived files)).map
      Operation.qualifiedName = storedOrderOperations := by
    rw [outcome] at derives
    exact Option.some.inj derives
  have apart : Uuid.ofName "sales.Order#PrepareStandardCreateOrder" ≠
      Uuid.ofName "sales.Order#StandardCreateOrder" := by
    decide +kernel
  refine ⟨_, generated, names, (reached.operation_ids generated).2.2.2.mpr ?_⟩
  simp [names, storedOrderOperations, apart, apart.symm]

end Reachable

end Schema

end EntitySurface
