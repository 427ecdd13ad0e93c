import EntitySurface.Entity
import EntitySurface.Proofs.Text.AsciiCase
import Mathlib.Data.List.Nodup

/-!
# Columns and the look-ups that lead to them

The columns of an entity are its fields and the elements of its stored properties. An element
reference leads to a column through the field or property that it names, and what a reference leads
to depends on the names, kinds and owners of the properties only.
-/

namespace EntitySurface

/-- What the columns of a property depend on. -/
def Property.identity (property : Property) : String × PropertyKind × Option EntityKey :=
  (property.name, property.kind, property.owner)

namespace PropertyKind

/-- The columns of one property differ in more than case. -/
theorem elements_pairwise (owner : EntityKey) (name : String) (kind : PropertyKind) :
    (kind.elements owner name).Pairwise fun first second =>
      Text.equalIgnoringAsciiCase first.name second.name = false := by
  cases kind
  case imageContent =>
    have apart : Text.equalIgnoringAsciiCase "IMG" "TBN" = false := by decide
    simp [elements, Text.equalIgnoringAsciiCase_append_left, apart]
  all_goals simp only [elements, List.pairwise_cons, List.mem_cons, List.not_mem_nil, or_false,
    forall_eq, false_implies, implies_true, List.Pairwise.nil, and_true]
  all_goals decide

/-- A property that is named by an identifier names its columns by identifiers of any length. -/
theorem isIdentifierShape_of_mem_elements {owner : EntityKey} {name : String} {kind : PropertyKind}
    (shape : Name.isIdentifierShape name.toList = true) {element : StoredElement}
    (mem : element ∈ kind.elements owner name) :
    Name.isIdentifierShape element.name.toList = true := by
  have extended (ending : String) (named : ending.toList.all Name.isNameChar = true) :
      Name.isIdentifierShape (name.toList ++ ending.toList) = true :=
    Name.isIdentifierShape_append shape (List.all_eq_true.mp named)
  have all : ∀ column ∈ (kind.elements owner name).map StoredElement.name,
      Name.isIdentifierShape column.toList = true := by
    cases kind
    case linkedToParent => simpa [elements] using extended "ID" (by decide)
    case imageContent =>
      simpa [elements] using And.intro (extended "IMG" (by decide)) (extended "TBN" (by decide))
    all_goals
      simp only [elements, List.map_cons, List.map_nil]
      decide
  exact all element.name (List.mem_map_of_mem mem)

end PropertyKind

namespace Property

theorem elements_congr {first second : Property} (same : first.identity = second.identity) :
    first.elements = second.elements := by
  simp only [identity, Prod.mk.injEq] at same
  simp [elements, same]

end Property

/-! ## Looking properties and fields up by name -/

/-- Where names are distinct, an entry is found under its name. -/
theorem find?_eq_some_of_nodup {α : Type} {entries : List α} {name : α → String}
    (distinct : (entries.map name).Nodup) {entry : α} (mem : entry ∈ entries) :
    (entries.find? fun candidate => name candidate == name entry) = some entry := by
  cases found : entries.find? fun candidate => name candidate == name entry with
  | none => exact absurd BEq.rfl (List.find?_eq_none.mp found entry mem)
  | some other =>
      have same : name other = name entry := by simpa using List.find?_some found
      rw [List.inj_on_of_nodup_map distinct (List.mem_of_find?_eq_some found) mem same]

/-- A stored column is found among the columns of its property. -/
theorem Property.find?_elements {property : Property} {owner : EntityKey}
    (owned : property.owner = some owner) {element : StoredElement}
    (mem : element ∈ property.elements) :
    (property.elements.find? fun candidate => candidate.name == element.name) = some element := by
  refine find?_eq_some_of_nodup (Text.nodup_of_apart ?_) mem
  rw [elements, owned, List.pairwise_map]
  exact PropertyKind.elements_pairwise owner property.name property.kind

namespace Entity

variable {entity : Entity}

theorem mem_of_property?_eq_some {name : String} {property : Property}
    (found : entity.property? name = some property) :
    property ∈ entity.properties ∧ property.name = name :=
  ⟨List.mem_of_find?_eq_some found, by simpa using List.find?_some found⟩

theorem property?_eq_none_iff {name : String} :
    entity.property? name = none ↔ ∀ property ∈ entity.properties, property.name ≠ name := by
  simp [property?]

/-- A name leads to a stored property exactly when one has it. -/
theorem property?_isSome_iff {name : String} :
    (entity.property? name).isSome ↔ ∃ property ∈ entity.properties, property.name = name := by
  simp [property?]

/-- Where names are distinct, a stored property is found under its name. -/
theorem property?_eq_some_of_mem (names : (entity.properties.map Property.name).Nodup)
    {property : Property} (mem : property ∈ entity.properties) :
    entity.property? property.name = some property :=
  find?_eq_some_of_nodup names mem

theorem mem_of_field?_eq_some {name : String} {field : Field}
    (found : entity.field? name = some field) : field ∈ entity.fields ∧ field.name = name :=
  ⟨List.mem_of_find?_eq_some found, by simpa using List.find?_some found⟩

/-! ## Columns -/

theorem mem_columns_iff {column : String} :
    column ∈ entity.columns ↔
      (∃ field ∈ entity.fields, field.name = column) ∨
        ∃ property ∈ entity.properties, ∃ element ∈ property.elements, element.name = column := by
  simp only [columns, elements, List.mem_append, List.mem_map, List.mem_flatMap]
  constructor
  · rintro (field | ⟨element, ⟨property, mem, inElements⟩, named⟩)
    · exact Or.inl field
    · exact Or.inr ⟨property, mem, element, inElements, named⟩
  · rintro (field | ⟨property, mem, element, inElements, named⟩)
    · exact Or.inl field
    · exact Or.inr ⟨element, ⟨property, mem, inElements⟩, named⟩

theorem columnClashes_eq_false_iff {column : String} :
    entity.columnClashes column = false ↔
      ∀ existing ∈ entity.columns, Text.equalIgnoringAsciiCase existing column = false := by
  simp [columnClashes]

/-- A column exists for the look-up exactly when it is listed. -/
theorem hasColumn_iff {column : String} :
    entity.hasColumn column = true ↔ column ∈ entity.columns := by
  simp [hasColumn, field?, columns]

/-- An element reference leads to a field, or to an element of the property that it names. -/
theorem field_or_stored_of_resolveElement? {element : ElementRef} {type : FieldType}
    {label : String} (resolved : entity.resolveElement? element = some (type, label)) :
    (∃ field ∈ entity.fields, element = .field field.name ∧ field.type = type) ∨
      ∃ property ∈ entity.properties, ∃ stored ∈ property.elements,
        element = .property property.name stored.name ∧ stored.type = type := by
  cases element with
  | field name =>
      obtain ⟨field, found, same⟩ := Option.map_eq_some_iff.mp resolved
      obtain ⟨mem, rfl⟩ := mem_of_field?_eq_some found
      exact .inl ⟨field, mem, rfl, (Prod.mk.inj same).1⟩
  | property name column =>
      obtain ⟨property, found, rest⟩ := Option.bind_eq_some_iff.mp resolved
      obtain ⟨stored, inElements, same⟩ := Option.bind_eq_some_iff.mp rest
      obtain ⟨mem, rfl⟩ := mem_of_property?_eq_some found
      have named := List.find?_some inElements
      obtain rfl : stored.name = column := eq_of_beq named
      exact .inr ⟨property, mem, stored, List.mem_of_find?_eq_some inElements, rfl,
        (Prod.mk.inj (Option.some.inj same)).1⟩

/-- What an element reference leads to is a column. -/
theorem column_mem_of_resolveElement?_eq_some {element : ElementRef} {type : FieldType}
    {label : String} (resolved : entity.resolveElement? element = some (type, label)) :
    element.column ∈ entity.columns := by
  rw [mem_columns_iff]
  rcases field_or_stored_of_resolveElement? resolved with
    ⟨field, mem, rfl, -⟩ | ⟨property, mem, stored, inElements, rfl, -⟩
  · exact .inl ⟨field, mem, rfl⟩
  · exact .inr ⟨property, mem, stored, inElements, rfl⟩

/-- More fields and properties do not change what a reference leads to. -/
theorem resolveElement?_append {element : ElementRef} {found : FieldType × String}
    (resolved : entity.resolveElement? element = some found) (fields : List Field)
    (properties : List Property) :
    { entity with
      fields := entity.fields ++ fields
      properties := entity.properties ++ properties }.resolveElement? element = some found := by
  cases element with
  | field name =>
      obtain ⟨field, inFields, rfl⟩ := Option.map_eq_some_iff.mp resolved
      simp only [field?] at inFields
      simp [resolveElement?, field?, inFields]
  | property name column =>
      obtain ⟨stored, inProperties, rest⟩ := Option.bind_eq_some_iff.mp resolved
      simp only [property?] at inProperties
      simp only [resolveElement?, property?, List.find?_append, inProperties, Option.some_or]
      exact rest

/-! ## What depends on the identities of properties only -/

section SameIdentities

variable {properties : List Property}
  (same : properties.map Property.identity = entity.properties.map Property.identity)
include same

theorem map_name_eq_of_identities :
    properties.map Property.name = entity.properties.map Property.name := by
  have projected := congrArg (List.map Prod.fst) same
  rwa [List.map_map, List.map_map] at projected

theorem columns_eq_of_identities : { entity with properties }.columns = entity.columns := by
  have elements_eq : ∀ {first second : List Property},
      first.map Property.identity = second.map Property.identity →
        first.flatMap Property.elements = second.flatMap Property.elements := by
    intro first
    induction first with
    | nil => intro second equal; simp [List.map_eq_nil_iff.mp equal.symm]
    | cons property rest ih =>
        intro second equal
        cases second with
        | nil => simp at equal
        | cons other others =>
            simp only [List.map_cons, List.cons.injEq] at equal
            simp [Property.elements_congr equal.1, ih equal.2]
  simp only [columns, elements, elements_eq same]

/-- A name leads to properties of one identity. -/
theorem map_identity_property?_of_identities (name : String) :
    ({ entity with properties }.property? name).map Property.identity =
      (entity.property? name).map Property.identity := by
  have find : ∀ list : List Property,
      (list.find? fun property => property.name == name).map Property.identity =
        (list.map Property.identity).find? fun identity => identity.1 == name := by
    intro list
    rw [List.find?_map]
    rfl
  simp only [property?, find, same]

theorem resolveElement?_eq_of_identities (element : ElementRef) :
    { entity with properties }.resolveElement? element = entity.resolveElement? element := by
  cases element with
  | field name => rfl
  | property name column =>
      have stored := map_identity_property?_of_identities same name
      simp only [resolveElement?]
      cases first : ({ entity with properties } : Entity).property? name with
      | none =>
          rw [first] at stored
          rw [Option.map_eq_none_iff.mp stored.symm]
      | some property =>
          rw [first] at stored
          obtain ⟨other, second, equal⟩ := Option.map_eq_some_iff.mp stored.symm
          simp [second, Property.elements_congr equal]

end SameIdentities

end Entity

end EntitySurface
