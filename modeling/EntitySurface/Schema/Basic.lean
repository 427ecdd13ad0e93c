import EntitySurface.Catalog
import EntitySurface.Entity

/-!
# Schemas

A schema holds entities in the order in which they were declared, the catalog of namespaces and
categories, and the phase of its composition.
-/

namespace EntitySurface

/-- A schema grows until it is finalized. -/
inductive Phase where
  | composing
  | finalized
  deriving DecidableEq

/-- The phase as it is shown. -/
def Phase.label : Phase → String
  | composing => "Composing"
  | finalized => "Finalized"

/-- Entities and the catalog they refer to. -/
structure Schema where
  name : String
  entities : List Entity := []
  /-- Where the entity of a key stands. -/
  index : KeyIndex EntityKey := {}
  catalog : Catalog := {}
  phase : Phase := .composing
  deriving DecidableEq

namespace Schema

/-- The schema is frozen: it can be derived and no longer composed. -/
def isFinalized (schema : Schema) : Bool :=
  schema.phase == .finalized

/-- The entity of a key. -/
def entity? (schema : Schema) (key : EntityKey) : Option Entity :=
  (schema.index.position? key).bind fun position => schema.entities[position]?

/-- Some entity has this key. -/
def contains (schema : Schema) (key : EntityKey) : Bool :=
  schema.index.contains key

/-- The schema with a new entity at the end. -/
def declare (schema : Schema) (key : EntityKey) (label : String) : Schema :=
  { schema with
    entities := schema.entities ++ [{ key, label }]
    index := schema.index.enter key schema.entities.length }

/-- Put another entity in the place of the entity of a given key. -/
def replace (schema : Schema) (key : EntityKey) (entity : Entity) : Schema :=
  match schema.index.position? key with
  | some position => { schema with entities := schema.entities.set position entity }
  | none => schema

/-- Look an entity up by `namespace.Name`, or by its bare name when no other entity has it. -/
def find? (schema : Schema) (name : String) : Option Entity :=
  match (EntityKey.parse? name).bind schema.entity? with
  | some entity => some entity
  | none =>
      match schema.entities.filter fun entity => entity.key.name == name with
      | [entity] => some entity
      | _ => none

end Schema

end EntitySurface
