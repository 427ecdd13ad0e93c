import EntitySurface.Demo
import EntitySurface.Proofs.Derivation.Linked
import EntitySurface.Proofs.Entity.Active
import EntitySurface.Proofs.Schema.Finalized
import EntitySurface.Proofs.Schema.Invariant
import EntitySurface.Proofs.Search.Plan
import EntitySurface.Proofs.Surface.Absorption

/-!
# Searching an entity

The search operation, the search page and the search plan of an entity are derived apart from one
another from the widgets that the entity was given while it was composed. They agree: the operation
takes what the plan takes, the page shows the primary part of it, and every searchable column is
among it.
-/

namespace EntitySurface

open Composer

/-! ## Searchable columns and their widgets -/

/-- The columns that are searchable by themselves: searchable fields, and searchable elements of
active properties. -/
inductive Entity.Searchable (entity : Entity) : ElementRef → Prop where
  | field {field : Field} (mem : field ∈ entity.fields) (searchable : field.searchable = true) :
      Searchable entity (.field field.name)
  | element {property : Property} {element : StoredElement}
      (active : property ∈ entity.activeProperties) (mem : element ∈ property.elements)
      (searchable : element.searchable = true) :
      Searchable entity (.property property.name element.name)

/-- The widgets that came with fields and properties are all there. -/
structure Entity.ShowsSearchable (entity : Entity) : Prop where
  fields : ∀ field ∈ entity.fields, field.searchable = true →
    fieldWidget field ∈ entity.searchWidgets
  properties : entity.properties.flatMap propertyWidgets ⊆ entity.searchWidgets

namespace Entity

/-- Changes of properties that keep their widgets keep the widgets of all. -/
theorem ShowsSearchable.of_properties {entity : Entity} (shows : entity.ShowsSearchable)
    {properties : List Property}
    (same : properties.map propertyWidgets = entity.properties.map propertyWidgets) :
    { entity with properties }.ShowsSearchable where
  fields := shows.fields
  properties := by
    rw [List.flatMap_def, same, ← List.flatMap_def]
    exact shows.properties

/-- Every searchable column has a widget throughout a run. -/
theorem showsSearchable_invariant : Entity.Invariant ShowsSearchable where
  declared key label :=
    ⟨fun field mem => absurd mem List.not_mem_nil, List.nil_subset _⟩
  addition := by
    intro schema entity grown wellFormed added shows
    cases added with
    | description text => exact { shows with }
    | @field field stored sound category added shown =>
        constructor
        · intro other mem searchable
          rcases List.mem_append.mp mem with old | new
          · exact List.mem_append_left _ (shows.fields other old searchable)
          · obtain rfl := List.mem_singleton.mp new
            exact List.mem_append_right _ (by simp [searchable])
        · exact fun widget mem => List.mem_append_left _ (shows.properties mem)
    | @property pending stored target identifier rules bindings unowned added shown =>
        constructor
        · exact fun field mem shown => List.mem_append_left _ (shows.fields field mem shown)
        · intro widget mem
          rw [withProperty, List.flatMap_append, List.flatMap_singleton] at mem
          rcases List.mem_append.mp mem with old | new
          · exact List.mem_append_left _ (shows.properties old)
          · exact List.mem_append_right _ new
    | rule found fits added =>
        obtain ⟨properties, rfl, same⟩ :=
          exists_properties_of_addRule propertyWidgets (fun _ _ => rfl) added
        exact shows.of_properties same
    | hook added =>
        obtain ⟨properties, rfl, same⟩ :=
          exists_properties_of_addHook propertyWidgets (fun _ _ => rfl) added
        exact shows.of_properties same
    | widget resolved added =>
        rw [addWidget_ok_eq added]
        constructor
        · exact fun field mem shown => List.mem_append_left _ (shows.fields field mem shown)
        · exact fun widget mem => List.mem_append_left _ (shows.properties mem)
    | tab identifier added =>
        rw [← (addTab_eq_ok_iff.mp added).2.2]
        exact { shows with }
    | loaderAlias added =>
        rw [← (addAlias_eq_ok_iff.mp added).2]
        exact { shows with }
  finalize := by
    intro entity shows
    obtain ⟨finalized, same⟩ := entity.exists_finalize_eq
    have settled : { entity with properties := entity.settling.1 }.ShowsSearchable :=
      shows.of_properties
        (Property.map_eq_map_of_unresolved (fun _ => rfl) entity.map_unresolved_settling)
    rw [same]
    exact { settled with }

/-- A searchable column has a primary widget. -/
theorem ShowsSearchable.exists_widget {entity : Entity} (shows : entity.ShowsSearchable)
    {element : ElementRef} (searchable : entity.Searchable element) :
    ∃ widget ∈ entity.searchWidgets, widget.element = element ∧ widget.isPrimary = true := by
  cases searchable with
  | @field field mem searchable =>
      exact ⟨fieldWidget field, shows.fields field mem searchable, rfl, rfl⟩
  | @element property element active mem searchable =>
      obtain ⟨stored, notLegacy⟩ := mem_activeProperties_iff.mp active
      have inWidgets : { element := .property property.name element.name
                         kind := .forType element.type, isPrimary := true
                         label := element.label : SearchWidget } ∈ propertyWidgets property := by
        unfold propertyWidgets
        rw [notLegacy]
        exact List.mem_map.mpr ⟨element, List.mem_filter.mpr ⟨mem, searchable⟩, rfl⟩
      exact ⟨_, shows.properties (List.mem_flatMap.mpr ⟨property, stored, inWidgets⟩), rfl, rfl⟩

/-- No two widgets are about the same column. -/
theorem WellFormed.filter_column_eq {entity : Entity} (wellFormed : entity.WellFormed)
    {widget : SearchWidget} (mem : widget ∈ entity.searchWidgets) :
    (entity.searchWidgets.filter fun other => other.element.column == widget.element.column) =
      [widget] := by
  have distinct := wellFormed.widgetArguments
  have only : ∀ other ∈ entity.searchWidgets,
      (other.element.column == widget.element.column) = (other == widget) := by
    intro other otherMem
    rw [Bool.eq_iff_iff, beq_iff_eq, beq_iff_eq]
    constructor
    · intro same
      exact List.inj_on_of_nodup_map distinct otherMem mem (congrArg Text.lowercase same)
    · rintro rfl
      rfl
  rw [List.filter_congr only, List.filter_beq, List.count_eq_one_of_mem distinct.of_map mem]
  rfl

end Entity

/-! ## What derivation makes of the widgets -/

/-- What an input of a widget over a column of the given type is. -/
def WidgetKind.inputKind (type : FieldType) : WidgetKind → ArgumentKind
  | .text | .exact => .value type
  | .choice category => .values (.choice category false)
  | .dateRange => .dateRange

namespace Entity

variable {entity : Entity}

/-- The argument of a widget that leads to a column. -/
theorem widgetArgument_eq {widget : SearchWidget} {type : FieldType} {label : String}
    (resolved : entity.resolveElement? widget.element = some (type, label)) :
    entity.widgetArgument widget =
      { name := widget.argumentName, kind := widget.kind.inputKind type, optional := true } := by
  unfold widgetArgument
  rw [resolved]
  cases widget.kind <;> rfl

/-- The operation takes the arguments of the plan. -/
theorem map_name_searchArguments (entity : Entity) :
    entity.searchArguments.map Argument.name =
      (SearchPlan.forEntity entity).widgets.map PlannedWidget.argument := by
  simp only [searchArguments, SearchPlan.forEntity, List.map_map]
  rfl

/-- The search arguments stand for the widgets, one by one. -/
theorem WellFormed.forall₂_searchArguments (wellFormed : entity.WellFormed) :
    List.Forall₂ (fun widget input => ∃ type label,
        entity.resolveElement? widget.element = some (type, label) ∧
        input = { name := widget.argumentName, kind := widget.kind.inputKind type
                  optional := true : Argument })
      entity.searchWidgets entity.searchArguments := by
  rw [searchArguments, List.forall₂_map_right_iff, List.forall₂_same]
  intro widget mem
  obtain ⟨⟨type, label⟩, resolved⟩ :=
    Option.isSome_iff_exists.mp (wellFormed.widgetElements widget mem).1
  exact ⟨type, label, resolved, widgetArgument_eq resolved⟩

/-- The page takes the primary part of the search arguments. -/
theorem searchPageArguments_eq (entity : Entity) :
    entity.searchPageArguments =
      (((SearchPlan.forEntity entity).widgets.zip entity.searchArguments).filter fun pair =>
        pair.1.isPrimary).map Prod.snd := by
  simp only [SearchPlan.forEntity, searchArguments, List.zip_map', List.filter_map, List.map_map]
  rfl

end Entity

namespace Schema.Reachable

variable {schema : Schema} {entity : Entity}

/-- When the surface of a shown entity is derived, the search operation takes what the search plan
takes: one optional input for each widget in declaration order, of a kind that fits the widget and
the type of its column. The search page takes the primary part of these inputs. Every searchable
column has exactly one widget, a primary one. Compiling criteria refuses a key as unknown exactly
when the key is the first that is no input of the operation. -/
theorem search_agrees (reached : schema.Reachable) (mem : entity ∈ schema.entities)
    (shown : entity.hasShowSurface = true) {surface : Surface}
    (derived : Surface.derive DerivationRule.standard entity = .ok surface) :
    ∃ search page plan,
      surface.operation? ("Search" ++ entity.pascalName) = some search ∧
      surface.page? ("Search" ++ entity.pascalName ++ "Page") = some page ∧
      surface.searchPlan = some plan ∧
      plan.widgets = (entity.searchWidgets.map fun widget =>
        { argument := widget.argumentName, column := widget.element.column, kind := widget.kind
          isPrimary := widget.isPrimary }) ∧
      search.inputs.map Argument.name = plan.widgets.map PlannedWidget.argument ∧
      List.Forall₂ (fun widget input => ∃ type label,
          entity.resolveElement? widget.element = some (type, label) ∧
          input = { name := widget.argumentName, kind := widget.kind.inputKind type
                    optional := true : Argument })
        entity.searchWidgets search.inputs ∧
      page.inputs = ((plan.widgets.zip search.inputs).filter fun pair =>
        pair.1.isPrimary).map Prod.snd ∧
      (∀ element, entity.Searchable element →
        ∃ widget, (entity.searchWidgets.filter fun other =>
            other.element.column == element.column) = [widget] ∧
          widget.element = element ∧ widget.isPrimary = true) ∧
      ∀ criteria catalog key,
        plan.compile criteria catalog =
            .error (.invalidSearchInput key (.noSuchWidget entity.key)) ↔
          criteria.inputs.keys.find? (fun argument =>
            !(search.inputs.map Argument.name).contains argument) = some key := by
  have wellFormed := reached.wellFormed.entities entity mem
  have shows := reached.forall_entities Entity.showsSearchable_invariant entity mem
  have inRules : DerivationRule.showing ∈ DerivationRule.standard := by decide
  let search := entity.operation ("Search" ++ entity.pascalName) entity.searchArguments
    [entity.objectsArgument] [.lookup, .executiveRead]
  let page := { Page.forOperation search with inputs := entity.searchPageArguments }
  have searchFound : surface.operation? search.name = some search :=
    Surface.operation?_of_derive derived inRules shown rfl Derivation.search_mem_showing
  have pageFound : surface.page? page.name = some page :=
    Surface.page?_of_derive derived inRules shown rfl Derivation.searchPage_mem_showing
  have planFound : surface.searchPlan = some (.forEntity entity) := by
    refine Surface.holds_of_derive derived inRules shown rfl
      (Derivation.searchPlan_mem_showing_iff.mpr rfl) ?_
    rintro rule - contributions outcome other inOthers plan another ⟨⟩ rfl
    exact (DerivationRule.plan_eq outcome inOthers).symm
  refine ⟨search, page, .forEntity entity, searchFound, pageFound, planFound, rfl,
    entity.map_name_searchArguments, wellFormed.forall₂_searchArguments,
    entity.searchPageArguments_eq, ?_, ?_⟩
  · intro element searchable
    obtain ⟨widget, inWidgets, rfl, isPrimary⟩ := shows.exists_widget searchable
    exact ⟨widget, wellFormed.filter_column_eq inWidgets, rfl, isPrimary⟩
  · intro criteria catalog key
    have inputs : search.inputs.map Argument.name =
        (SearchPlan.forEntity entity).widgets.map PlannedWidget.argument :=
      entity.map_name_searchArguments
    rw [inputs]
    exact SearchPlan.compile_eq_noSuchWidget_iff

/-- Customers with their invoices. -/
def searchedInvoices : List Command :=
  Demo.Sales.categories ++ Demo.Sales.customers ++ Demo.Sales.invoices ++ [.finish]

/-- Invoices are searched by number, state and due date, and not by customer. -/
theorem search_agrees_invoices :
    let schema := (({ name := "sales" } : Schema).executeAll searchedInvoices).1
    ∃ entity ∈ schema.entities, entity.key = Demo.Sales.invoice ∧ entity.hasShowSurface = true ∧
      ∃ surface, Surface.derive DerivationRule.standard entity = .ok surface ∧
        ∃ search plan, surface.operation? ("Search" ++ entity.pascalName) = some search ∧
          surface.searchPlan = some plan ∧
          search.inputs.map Argument.name = ["nr", "state", "duedate"] ∧
          ∀ filter? catalog,
            plan.compile ⟨Dictionary.ofList [("customer", .text none), ("nr", .text none)], filter?⟩
                catalog =
              .error (.invalidSearchInput "customer" (.noSuchWidget Demo.Sales.invoice)) := by
  intro schema
  have derivable : ∃ entity ∈ schema.entities, entity.key = Demo.Sales.invoice ∧
      entity.hasShowSurface = true ∧
      (Surface.derive DerivationRule.standard entity).toOption.isSome = true ∧
      entity.searchWidgets.map SearchWidget.argumentName = ["nr", "state", "duedate"] := by
    decide +kernel
  obtain ⟨entity, mem, key, shown, succeeds, widgets⟩ := derivable
  cases derived : Surface.derive DerivationRule.standard entity with
  | error fault => simp [derived, Except.toOption] at succeeds
  | ok surface =>
      obtain ⟨search, -, plan, searchFound, -, planFound, planned, named, -, -, -, refused⟩ :=
        ((Reachable.start "sales").executeAll searchedInvoices).search_agrees mem shown derived
      have names : search.inputs.map Argument.name = ["nr", "state", "duedate"] := by
        rw [named, planned, List.map_map]
        exact widgets
      refine ⟨entity, mem, key, shown, surface, derived, search, plan, searchFound, planFound,
        names, ?_⟩
      intro filter? catalog
      rw [← key, refused, names]
      have unknown : (Dictionary.ofList [("customer", SearchInput.text none),
          ("nr", .text none)]).keys.find? (fun argument =>
            !(["nr", "state", "duedate"].contains argument)) = some "customer" := by decide
      exact unknown

end Schema.Reachable

end EntitySurface
