import EntitySurface.Demo
import EntitySurface.Proofs.Entity.WellFormed
import EntitySurface.Proofs.Schema.Reachable

/-!
# Look-ups of columns

Whether a column is there, which type it has and what a reference leads to are found in different
ways: the first two look through the fields and then through the elements of all properties, a
reference looks at the fields alone or at one property alone. All of them are look-ups in one list
of columns with their types. The entities of a composed schema have no two columns of one name,
whether they are fields or come with properties, active or legacy, so all ways to look a column up
give the same answer.
-/

namespace EntitySurface.Entity

variable {entity : Entity} {column : String} {type : FieldType}

/-- All columns with their types: the fields, then the elements of the properties. -/
def typedColumns (entity : Entity) : List (String × FieldType) :=
  entity.fields.map (fun field => (field.name, field.type)) ++
    entity.elements.map fun element => (element.name, element.type)

theorem map_fst_typedColumns (entity : Entity) :
    entity.typedColumns.map Prod.fst = entity.columns := by
  simp [typedColumns, columns, Function.comp_def]

/-- The type of a column is that of the first entry with its name. -/
theorem columnType?_eq (entity : Entity) (column : String) :
    entity.columnType? column =
      (entity.typedColumns.find? fun entry => entry.1 == column).map Prod.snd := by
  have ofFields : ((entity.fields.map fun field => (field.name, field.type)).find?
      fun entry => entry.1 == column) =
        (entity.field? column).map fun field => (field.name, field.type) :=
    List.find?_map ..
  rw [typedColumns, List.find?_append, ofFields, List.find?_map, columnType?]
  cases entity.field? column with
  | none =>
      rw [Option.map_none, Option.none_or, Option.map_map]
      rfl
  | some field => rfl

/-- A column has a type exactly when it is listed. -/
theorem columnType?_isSome_iff :
    (entity.columnType? column).isSome = true ↔ column ∈ entity.columns := by
  rw [columnType?_eq, ← map_fst_typedColumns]
  simp

theorem mem_typedColumns_of_field {field : Field} (mem : field ∈ entity.fields) :
    (field.name, field.type) ∈ entity.typedColumns :=
  List.mem_append_left _ (List.mem_map_of_mem mem)

theorem mem_typedColumns_of_stored {property : Property} (mem : property ∈ entity.properties)
    {element : StoredElement} (inElements : element ∈ property.elements) :
    (element.name, element.type) ∈ entity.typedColumns :=
  List.mem_append_right _ (List.mem_map_of_mem (List.mem_flatMap_of_mem mem inElements))

/-- A reference leads to a column of the type that it has. -/
theorem mem_typedColumns_of_resolveElement? {element : ElementRef} {label : String}
    (resolved : entity.resolveElement? element = some (type, label)) :
    (element.column, type) ∈ entity.typedColumns := by
  rcases field_or_stored_of_resolveElement? resolved with
    ⟨field, mem, rfl, rfl⟩ | ⟨property, mem, stored, inElements, rfl, rfl⟩
  · exact mem_typedColumns_of_field mem
  · exact mem_typedColumns_of_stored mem inElements

namespace WellFormed

variable (wellFormed : entity.WellFormed)
include wellFormed

/-- No two columns share a name, so a type is found for the column that has it. -/
theorem columnType?_eq_some_iff :
    entity.columnType? column = some type ↔ (column, type) ∈ entity.typedColumns := by
  rw [columnType?_eq]
  constructor
  · intro found
    obtain ⟨⟨name, other⟩, first, rfl⟩ := Option.map_eq_some_iff.mp found
    have named := List.find?_some first
    obtain rfl : name = column := eq_of_beq named
    exact List.mem_of_find?_eq_some first
  · intro mem
    have distinct : (entity.typedColumns.map Prod.fst).Nodup := by
      rw [map_fst_typedColumns]
      exact Text.nodup_of_apart wellFormed.columns
    rw [find?_eq_some_of_nodup distinct mem, Option.map_some]

/-- Every column can be referred to. -/
theorem exists_resolveElement?_of_mem (mem : (column, type) ∈ entity.typedColumns) :
    ∃ element label, element.column = column ∧
      entity.resolveElement? element = some (type, label) := by
  rcases List.mem_append.mp mem with ofField | ofElement
  · obtain ⟨field, inFields, same⟩ := List.mem_map.mp ofField
    cases same
    refine ⟨.field field.name, field.label, rfl, ?_⟩
    rw [resolveElement?, wellFormed.field?_eq_some_of_mem inFields, Option.map_some]
  · obtain ⟨element, inEntity, same⟩ := List.mem_map.mp ofElement
    cases same
    obtain ⟨property, stored, inElements⟩ := List.mem_flatMap.mp inEntity
    refine ⟨.property property.name element.name, element.label, rfl, ?_⟩
    have found := property?_eq_some_of_mem wellFormed.propertyNames stored
    have foundElement := Property.find?_elements (wellFormed.owned property stored) inElements
    simp [resolveElement?, found, foundElement]

/-- The type of a column is the one that references to the column lead to. -/
theorem columnType?_eq_some_iff_resolves :
    entity.columnType? column = some type ↔
      ∃ element label, element.column = column ∧
        entity.resolveElement? element = some (type, label) := by
  rw [wellFormed.columnType?_eq_some_iff]
  constructor
  · exact wellFormed.exists_resolveElement?_of_mem
  · rintro ⟨element, label, rfl, resolved⟩
    exact mem_typedColumns_of_resolveElement? resolved

end WellFormed

end EntitySurface.Entity

namespace EntitySurface.Schema.Reachable

variable {schema : Schema} {entity : Entity}

/-- A column is there exactly when it is listed and exactly when it has a type. The type is the one
that every reference to the column leads to, and a column with a type can be referred to. -/
theorem columns_agree (reached : schema.Reachable) (mem : entity ∈ schema.entities) :
    (∀ column, (entity.hasColumn column = true ↔ column ∈ entity.columns) ∧
      (entity.hasColumn column = true ↔ (entity.columnType? column).isSome = true)) ∧
    ∀ column type, entity.columnType? column = some type ↔
      ∃ element label, element.column = column ∧
        entity.resolveElement? element = some (type, label) := by
  refine ⟨fun column => ⟨Entity.hasColumn_iff, ?_⟩, fun column type => ?_⟩
  · rw [Entity.hasColumn_iff, Entity.columnType?_isSome_iff]
  · exact (reached.wellFormed.entities entity mem).columnType?_eq_some_iff_resolves

/-- Products whose number is a legacy property. -/
def formerlyNumberedProducts : List Command :=
  Demo.Sales.products ++ [.property Demo.Sales.product (.ofKind .numbered) .legacy]

/-- The legacy number keeps its type, and a column of another case is none. -/
theorem columns_agree_formerlyNumberedProducts :
    let schema := (({ name := "sales" } : Schema).executeAll formerlyNumberedProducts).1
    ∃ entity ∈ schema.entities,
      entity.columnType? "NR" = some (.text 64) ∧ entity.columnType? "PHOTOIMG" = some .binary ∧
        entity.hasColumn "PRICE" = true ∧ entity.columnType? "nr" = none := by
  intro schema
  have composed : ∃ entity ∈ schema.entities,
      entity.resolveElement? (.property "NUMBERED" "NR") = some (.text 64, "Number") ∧
        entity.resolveElement? (.property "PHOTO" "PHOTOIMG") = some (.binary, "Image") ∧
          "PRICE" ∈ entity.columns ∧ "nr" ∉ entity.columns := by
    decide +kernel
  obtain ⟨entity, mem, number, image, price, otherCase⟩ := composed
  obtain ⟨listed, typed⟩ :=
    ((Reachable.start "sales").executeAll formerlyNumberedProducts).columns_agree mem
  refine ⟨entity, mem, (typed _ _).mpr ⟨_, _, rfl, number⟩, (typed _ _).mpr ⟨_, _, rfl, image⟩,
    (listed "PRICE").1.mpr price, ?_⟩
  have untyped := mt (listed "nr").1.mp otherCase
  rwa [(listed "nr").2, Bool.not_eq_true, Option.isSome_eq_false_iff, Option.isNone_iff_eq_none]
    at untyped

end EntitySurface.Schema.Reachable
