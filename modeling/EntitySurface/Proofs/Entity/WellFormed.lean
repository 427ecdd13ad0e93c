import EntitySurface.Proofs.Entity.Additions
import Mathlib.Data.List.Pairwise
import Mathlib.Data.List.Perm.Basic

/-!
# Well-formed entities

The representation invariant of an entity: names are unique where they are looked up, columns differ
in more than the case of letters, every property is owned by the entity, and widgets and tabs refer
to what is there. Each checked addition keeps the invariant.

Fields and properties have identifiers as names. For this reason a column that differs from all
others in more than case also has a search argument of its own.
-/

namespace EntitySurface

/-- A field without problems has an identifier as its name. -/
theorem Field.identifierProblem?_eq_none {field : Field} (sound : field.problem? = none) :
    Name.identifierProblem? field.name = none := by
  unfold Field.problem? at sound
  split at sound
  · contradiction
  · assumption

/-- The representation invariant of an entity. -/
structure Entity.WellFormed (entity : Entity) : Prop where
  propertyNames : (entity.properties.map Property.name).Nodup
  /-- Legacy properties count: their columns stay in storage. -/
  columns : entity.columns.Pairwise fun first second =>
    Text.equalIgnoringAsciiCase first second = false
  owned : ∀ property ∈ entity.properties, property.owner = some entity.key
  widgetElements : ∀ widget ∈ entity.searchWidgets,
    (entity.resolveElement? widget.element).isSome ∧ widget.element.column ∈ entity.columns
  widgetArguments : (entity.searchWidgets.map SearchWidget.argumentName).Nodup
  tabNames : (entity.extraTabs.map DisplayTab.name).Nodup
  tabProperties : ∀ tab ∈ entity.extraTabs,
    ∃ property ∈ entity.properties, property.name = tab.showsProperty
  aliasHeaders : (entity.loaderAliases.map LoaderAlias.header).Nodup
  fieldIdentifiers : ∀ field ∈ entity.fields, Name.identifierProblem? field.name = none
  propertyIdentifiers : ∀ property ∈ entity.properties,
    Name.identifierProblem? property.name = none

namespace Entity.WellFormed

variable {entity grown : Entity}

/-- A new entity is well-formed. -/
theorem declared (key : EntityKey) (label : String) : ({ key, label } : Entity).WellFormed where
  propertyNames := List.nodup_nil
  columns := List.Pairwise.nil
  owned := by simp
  widgetElements := by simp
  widgetArguments := List.nodup_nil
  tabNames := List.nodup_nil
  tabProperties := by simp
  aliasHeaders := List.nodup_nil
  fieldIdentifiers := by simp
  propertyIdentifiers := by simp

/-- The columns of a well-formed entity are named like identifiers. -/
theorem isIdentifierShape_of_mem_columns (wellFormed : entity.WellFormed) {column : String}
    (mem : column ∈ entity.columns) : Name.isIdentifierShape column.toList = true := by
  rcases mem_columns_iff.mp mem with
    ⟨field, inFields, rfl⟩ | ⟨property, stored, element, inElements, rfl⟩
  · exact Name.isIdentifierShape_of_identifierProblem?_eq_none
      (wellFormed.fieldIdentifiers field inFields)
  · rw [Property.elements, wellFormed.owned property stored] at inElements
    exact PropertyKind.isIdentifierShape_of_mem_elements
      (Name.isIdentifierShape_of_identifierProblem?_eq_none
        (wellFormed.propertyIdentifiers property stored)) inElements

theorem isAscii_of_mem_columns (wellFormed : entity.WellFormed) {column : String}
    (mem : column ∈ entity.columns) : Text.IsAscii column :=
  Name.isAscii_of_isIdentifierShape (wellFormed.isIdentifierShape_of_mem_columns mem)

/-- Where columns are apart, a field is found under its name. -/
theorem field?_eq_some_of_mem (wellFormed : entity.WellFormed) {field : Field}
    (mem : field ∈ entity.fields) : entity.field? field.name = some field :=
  find?_eq_some_of_nodup (Text.nodup_of_apart (List.pairwise_append.mp wellFormed.columns).1) mem

/-- Columns that differ in case at most are stored by the same property. -/
theorem eq_of_elements (wellFormed : entity.WellFormed) {first second : Property}
    (firstMem : first ∈ entity.properties) (secondMem : second ∈ entity.properties)
    {one other : StoredElement} (oneMem : one ∈ first.elements) (otherMem : other ∈ second.elements)
    (clash : Text.equalIgnoringAsciiCase one.name other.name = true) : first = second := by
  have apart := (List.pairwise_append.mp wellFormed.columns).2.1
  rw [elements, List.pairwise_map, List.pairwise_flatMap] at apart
  by_contra different
  have symmetric : Std.Symm fun first second : Property => ∀ one ∈ first.elements,
      ∀ other ∈ second.elements, Text.equalIgnoringAsciiCase one.name other.name = false := by
    refine ⟨fun first second apart one oneMem other otherMem => ?_⟩
    rw [Text.equalIgnoringAsciiCase_comm]
    exact apart other otherMem one oneMem
  rw [apart.2.forall firstMem secondMem different one oneMem other otherMem] at clash
  contradiction

/-- An entity has at most one property of a kind that always stores a column of the same name. -/
theorem eq_of_column (wellFormed : entity.WellFormed) {tag : PropertyTag} {column : String}
    (stores : ∀ (kind : PropertyKind) (owner : EntityKey) (name : String), kind.tag = tag →
      ∃ element ∈ kind.elements owner name, element.name = column)
    {first second : Property} (firstMem : first ∈ entity.properties)
    (secondMem : second ∈ entity.properties) (firstTag : first.tag = tag)
    (secondTag : second.tag = tag) : first = second := by
  obtain ⟨one, oneMem, oneName⟩ := stores first.kind entity.key first.name firstTag
  obtain ⟨other, otherMem, otherName⟩ := stores second.kind entity.key second.name secondTag
  apply wellFormed.eq_of_elements firstMem secondMem
  · rwa [Property.elements, wellFormed.owned first firstMem]
  · rwa [Property.elements, wellFormed.owned second secondMem]
  · rw [oneName, otherName, Text.equalIgnoringAsciiCase_refl]

/-- An entity has at most one lifecycle, since each of them stores the state. -/
theorem eq_of_lifecycle (wellFormed : entity.WellFormed) {first second : Property}
    (firstMem : first ∈ entity.properties) (secondMem : second ∈ entity.properties)
    (firstTag : first.tag = .lifecycle) (secondTag : second.tag = .lifecycle) : first = second := by
  apply wellFormed.eq_of_column _ firstMem secondMem firstTag secondTag
  · exact "STATE"
  · intro kind owner name tagged
    cases kind <;> first | contradiction | exact ⟨_, List.mem_cons_self, rfl⟩

/-- An entity stores at most one link between two others, since each of them stores both ends. -/
theorem eq_of_linkObject (wellFormed : entity.WellFormed) {first second : Property}
    (firstMem : first ∈ entity.properties) (secondMem : second ∈ entity.properties)
    (firstTag : first.tag = .linkObject) (secondTag : second.tag = .linkObject) :
    first = second := by
  apply wellFormed.eq_of_column _ firstMem secondMem firstTag secondTag
  · exact "LFID"
  · intro kind owner name tagged
    cases kind <;> first | contradiction | exact ⟨_, List.mem_cons_self, rfl⟩

theorem eq_of_autolinkObject (wellFormed : entity.WellFormed) {first second : Property}
    (firstMem : first ∈ entity.properties) (secondMem : second ∈ entity.properties)
    (firstTag : first.tag = .autolinkObject) (secondTag : second.tag = .autolinkObject) :
    first = second := by
  apply wellFormed.eq_of_column _ firstMem secondMem firstTag secondTag
  · exact "LEFTOBJID"
  · intro kind owner name tagged
    cases kind <;> first | contradiction | exact ⟨_, List.mem_cons_self, rfl⟩

/-- Parent links are told apart by the names of their arguments. -/
theorem eq_of_parentArgumentName (wellFormed : entity.WellFormed) {first second : Property}
    (firstMem : first ∈ entity.properties) (secondMem : second ∈ entity.properties)
    (firstTag : first.tag = .linkedToParent) (secondTag : second.tag = .linkedToParent)
    (same : parentArgumentName first.name = parentArgumentName second.name) : first = second := by
  have identifier : ∀ property ∈ entity.properties, property.tag = .linkedToParent →
      ∃ element ∈ property.elements, element.name = property.name ++ "ID" := by
    intro property mem tagged
    rw [Property.elements, wellFormed.owned property mem]
    unfold Property.tag at tagged
    cases kind : property.kind <;> rw [kind] at tagged <;>
      first | contradiction | exact ⟨_, List.mem_cons_self, rfl⟩
  obtain ⟨one, oneMem, oneName⟩ := identifier first firstMem firstTag
  obtain ⟨other, otherMem, otherName⟩ := identifier second secondMem secondTag
  have ascii := fun property mem => Name.isAscii_of_identifierProblem?_eq_none
    (wellFormed.propertyIdentifiers property mem)
  have sameName := (Text.lowercase_eq_iff_of_ascii (ascii first firstMem)
    (ascii second secondMem)).mp (String.append_left_inj _ |>.mp same)
  apply wellFormed.eq_of_elements firstMem secondMem oneMem otherMem
  rwa [oneName, otherName, Text.equalIgnoringAsciiCase_append_right]

/-- A new name at the end keeps the names distinct. -/
theorem nodup_map_append_singleton {α : Type} {name : α → String} {list : List α} {added : α}
    (distinct : (list.map name).Nodup) (fresh : ∀ other ∈ list, name other ≠ name added) :
    ((list ++ [added]).map name).Nodup := by
  rw [List.map_append, List.map_singleton, ← List.concat_eq_append]
  refine List.Nodup.concat ?_ distinct
  rw [List.mem_map]
  rintro ⟨other, mem, same⟩
  exact fresh other mem same

/-! ## Fields and properties -/

/-- A name that clashes with no column is the search argument of no widget. -/
theorem argumentName_ne (wellFormed : entity.WellFormed) {name : String}
    (ascii : Text.IsAscii name) (free : entity.columnClashes name = false)
    {widget : SearchWidget} (mem : widget ∈ entity.searchWidgets) :
    widget.argumentName ≠ Text.lowercase name := by
  have inColumns := (wellFormed.widgetElements widget mem).2
  intro same
  have clash := (Text.lowercase_eq_iff_of_ascii (wellFormed.isAscii_of_mem_columns inColumns)
    ascii).mp same
  rw [columnClashes_eq_false_iff.mp free _ inColumns] at clash
  contradiction

/-- More fields and properties leave every widget with the column that it had. -/
theorem widgetElements_append (wellFormed : entity.WellFormed) (fields : List Field)
    (properties : List Property) {widget : SearchWidget} (mem : widget ∈ entity.searchWidgets) :
    let extended := { entity with
      fields := entity.fields ++ fields
      properties := entity.properties ++ properties }
    (extended.resolveElement? widget.element).isSome ∧
      widget.element.column ∈ extended.columns := by
  obtain ⟨found, resolved⟩ := Option.isSome_iff_exists.mp (wellFormed.widgetElements widget mem).1
  have kept := resolveElement?_append resolved fields properties
  exact ⟨Option.isSome_iff_exists.mpr ⟨found, kept⟩, column_mem_of_resolveElement?_eq_some kept⟩

theorem addField (wellFormed : entity.WellFormed) {field : Field}
    (identifier : Name.identifierProblem? field.name = none)
    (added : entity.addField field = .ok grown) : grown.WellFormed := by
  obtain ⟨free, rfl⟩ := addField_eq_ok_iff.mp added
  have apart := columnClashes_eq_false_iff.mp free
  refine { wellFormed with columns := ?_, widgetElements := ?_, fieldIdentifiers := ?_ }
  · have columns_eq : ({ entity with fields := entity.fields ++ [field] } : Entity).columns =
        entity.fields.map Field.name ++ field.name :: entity.elements.map StoredElement.name := by
      simp [Entity.columns, Entity.elements]
    rw [columns_eq, List.pairwise_middle fun same =>
      (Text.equalIgnoringAsciiCase_comm _ _).trans same, List.pairwise_cons]
    refine ⟨fun column mem => ?_, wellFormed.columns⟩
    rw [Text.equalIgnoringAsciiCase_comm]
    exact apart column mem
  · intro widget mem
    simpa using wellFormed.widgetElements_append [field] [] mem
  · intro other mem
    rcases List.mem_append.mp mem with old | new
    · exact wellFormed.fieldIdentifiers other old
    · rwa [List.mem_singleton.mp new]

theorem addProperty (wellFormed : entity.WellFormed) {property : Property}
    (identifier : Name.identifierProblem? property.name = none)
    (owner : property.owner = some entity.key)
    (added : entity.addProperty property = .ok grown) : grown.WellFormed := by
  obtain ⟨fresh, free, -, rfl⟩ := addProperty_eq_ok_iff.mp added
  have ofNew : ∀ holds : Property → Prop, (∀ stored ∈ entity.properties, holds stored) →
      holds property → ∀ stored ∈ entity.properties ++ [property], holds stored := by
    intro holds old new stored mem
    rcases List.mem_append.mp mem with inOld | inNew
    · exact old stored inOld
    · rwa [List.mem_singleton.mp inNew]
  refine { wellFormed with
    propertyNames := ?_
    columns := ?_
    owned := ofNew _ wellFormed.owned owner
    widgetElements := ?_
    tabProperties := ?_
    propertyIdentifiers := ofNew _ wellFormed.propertyIdentifiers identifier }
  · exact nodup_map_append_singleton wellFormed.propertyNames (property?_eq_none_iff.mp fresh)
  · have columns_eq :
        ({ entity with properties := entity.properties ++ [property] } : Entity).columns =
          entity.columns ++ property.elements.map StoredElement.name := by
      simp [Entity.columns, Entity.elements]
    rw [columns_eq, List.pairwise_append]
    refine ⟨wellFormed.columns, ?_, ?_⟩
    · rw [Property.elements, owner, List.pairwise_map]
      exact PropertyKind.elements_pairwise entity.key property.name property.kind
    · intro existing inOld column inNew
      obtain ⟨element, mem, rfl⟩ := List.mem_map.mp inNew
      exact columnClashes_eq_false_iff.mp (free element mem) existing inOld
  · intro widget mem
    simpa using wellFormed.widgetElements_append [] [property] mem
  · intro tab mem
    obtain ⟨stored, inOld, named⟩ := wellFormed.tabProperties tab mem
    exact ⟨stored, List.mem_append_left _ inOld, named⟩

/-! ## Widgets, tabs and aliases -/

theorem addWidget (wellFormed : entity.WellFormed) {widget : SearchWidget}
    (resolved : (entity.resolveElement? widget.element).isSome)
    (added : entity.addWidget widget = .ok grown) : grown.WellFormed := by
  obtain ⟨free, rfl⟩ := addWidget_eq_ok_iff.mp added
  refine { wellFormed with widgetElements := ?_, widgetArguments := ?_ }
  · intro other mem
    rcases List.mem_append.mp mem with old | new
    · exact wellFormed.widgetElements other old
    · rw [List.mem_singleton.mp new]
      obtain ⟨⟨type, label⟩, found⟩ := Option.isSome_iff_exists.mp resolved
      exact ⟨resolved, column_mem_of_resolveElement?_eq_some found⟩
  · exact nodup_map_append_singleton wellFormed.widgetArguments fun other mem => (free other mem).2

theorem addTab (wellFormed : entity.WellFormed) {tab : DisplayTab}
    (added : entity.addTab tab = .ok grown) : grown.WellFormed := by
  obtain ⟨shown, free, rfl⟩ := addTab_eq_ok_iff.mp added
  refine { wellFormed with tabNames := ?_, tabProperties := ?_ }
  · exact nodup_map_append_singleton wellFormed.tabNames free
  · intro other mem
    rcases List.mem_append.mp mem with old | new
    · exact wellFormed.tabProperties other old
    · rw [List.mem_singleton.mp new]
      exact property?_isSome_iff.mp shown

theorem addAlias (wellFormed : entity.WellFormed) {added : LoaderAlias}
    (success : entity.addAlias added = .ok grown) : grown.WellFormed := by
  obtain ⟨free, rfl⟩ := addAlias_eq_ok_iff.mp success
  refine { wellFormed with aliasHeaders := ?_ }
  exact nodup_map_append_singleton wellFormed.aliasHeaders free

/-! ## Changes that keep the identities of properties -/

/-- The invariant does not depend on rules, visibility, hooks or settings of properties. -/
theorem of_identities (wellFormed : entity.WellFormed) {properties : List Property}
    (same : properties.map Property.identity = entity.properties.map Property.identity) :
    { entity with properties }.WellFormed := by
  have names := map_name_eq_of_identities same
  have ofOld : ∀ holds : String × PropertyKind × Option EntityKey → Prop,
      (∀ property ∈ entity.properties, holds property.identity) →
        ∀ property ∈ properties, holds property.identity := by
    intro holds old property mem
    have inOld : property.identity ∈ entity.properties.map Property.identity :=
      same ▸ List.mem_map_of_mem mem
    obtain ⟨other, otherMem, equal⟩ := List.mem_map.mp inOld
    exact equal ▸ old other otherMem
  refine { wellFormed with
    propertyNames := names ▸ wellFormed.propertyNames
    columns := columns_eq_of_identities same ▸ wellFormed.columns
    owned := ofOld (fun identity => identity.2.2 = some entity.key) wellFormed.owned
    widgetElements := ?_
    tabProperties := ?_
    propertyIdentifiers := ofOld (fun identity => Name.identifierProblem? identity.1 = none)
      wellFormed.propertyIdentifiers }
  · intro widget mem
    rw [resolveElement?_eq_of_identities same, columns_eq_of_identities same]
    exact wellFormed.widgetElements widget mem
  · intro tab mem
    obtain ⟨stored, inOld, named⟩ := wellFormed.tabProperties tab mem
    have inNames : tab.showsProperty ∈ properties.map Property.name :=
      names ▸ named ▸ List.mem_map_of_mem inOld
    exact List.mem_map.mp inNames

theorem withRule (wellFormed : entity.WellFormed) (name : String) (rule : BusinessRule) :
    (entity.withRule name rule).WellFormed := by
  refine wellFormed.of_identities (map_modifyProperty ?_ entity name)
  exact fun _ => rfl

theorem withHook (wellFormed : entity.WellFormed) (hook : MethodHook) :
    (entity.withHook hook).WellFormed := by
  refine wellFormed.of_identities (map_modifyProperty ?_ entity hook.declaring)
  exact fun _ => rfl

theorem describe (wellFormed : entity.WellFormed) (description : Option String) :
    { entity with description }.WellFormed :=
  { wellFormed with }

end Entity.WellFormed

end EntitySurface
