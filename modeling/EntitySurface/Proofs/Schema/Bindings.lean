import EntitySurface.Proofs.Schema.Finalized
import EntitySurface.Proofs.Schema.Finishing
import EntitySurface.Validation.Rule

/-!
# What entities are bound to

Entities are bound to each other and to choice categories by the parameters of their properties, by
columns that hold choices, and by widgets that offer them. Composition looks a binding up when it is
made, and nothing that was found is ever taken back. Only the dependency of a schedule and the
parent of a same-parent rule may be declared later; finishing the schema looks these up.
-/

namespace EntitySurface

open Composer

/-! ## Looking targets up -/

namespace Catalog

variable {catalog : Catalog} {key : ChoiceKey}

theorem category?_withNamespace (space : String) :
    (catalog.withNamespace space).category? key = catalog.category? key := by
  unfold withNamespace
  split <;> rfl

/-- A category that is known stays known beside another one. -/
theorem isSome_category?_add (known : (catalog.category? key).isSome = true)
    (category : ChoiceCategory) : ((catalog.add category).category? key).isSome = true := by
  simp only [category?, add, KeyIndex.position?_enter]
  by_cases same : key = category.key
  · simp [same]
  · obtain ⟨found, looked⟩ := Option.isSome_iff_exists.mp known
    obtain ⟨position, entered, stored⟩ := Option.bind_eq_some_iff.mp looked
    have inRange := (List.getElem?_eq_some_iff.mp stored).1
    simp [same, entered, List.getElem?_append_left inRange, stored]

end Catalog

namespace Schema

variable {schema after : Schema} {target : BindingTarget}

theorem WellFormed.resolves_entity_iff (wellFormed : schema.WellFormed) {key : EntityKey} :
    schema.resolves (.entity key) = true ↔ ∃ other ∈ schema.entities, other.key = key :=
  wellFormed.contains_iff

/-- No change takes a target away. -/
theorem Change.resolves (change : schema.Change after) (known : schema.resolves target = true) :
    after.resolves target = true := by
  cases change with
  | nothing | interrupted | finished => cases target <;> exact known
  | grown composing growth =>
      obtain ⟨entities, rfl⟩ := growth.eq_with_entities
      cases target <;> exact known
  | declared composing namespaced identifier fresh label =>
      cases target with
      | entity key =>
          simp only [Schema.resolves, contains, KeyIndex.contains, declare,
            KeyIndex.position?_enter] at known ⊢
          split
          · rfl
          · exact known
      | choice key =>
          simp only [Schema.resolves, declare, Catalog.category?_withNamespace] at known ⊢
          exact known
  | namespaced =>
      cases target with
      | entity key => exact known
      | choice key =>
          simp only [Schema.resolves, Catalog.category?_withNamespace] at known ⊢
          exact known
  | @categorized category =>
      cases target with
      | entity key => exact known
      | choice key =>
          simp only [Schema.resolves] at known ⊢
          refine Catalog.isSome_category?_add ?_ category
          rwa [Catalog.category?_withNamespace]

end Schema

/-! ## What columns and widgets are bound to -/

/-- The entity or category that the values of a column refer to. -/
def FieldType.target? : FieldType → Option BindingTarget
  | choice category _ => some (.choice category)
  | objectId entity => some (.entity entity)
  | text _ | decimal _ _ | integer | boolean | date | timestamp | binary => none

theorem FieldType.target?_eq_choice_iff {type : FieldType} {category : ChoiceKey} :
    type.target? = some (.choice category) ↔ type.category? = some category := by
  cases type <;> simp [target?, category?]

theorem FieldType.target?_eq_entity_iff {type : FieldType} {key : EntityKey} :
    type.target? = some (.entity key) ↔ type = .objectId key := by
  cases type <;> simp [target?]

theorem PropertyKind.tag_eq_schedule_iff {kind : PropertyKind} :
    kind.tag = .schedule ↔ ∃ dependency, kind = .schedule dependency := by
  cases kind <;> simp [tag]

theorem WidgetKind.forType_eq_choice_iff {type : FieldType} {category : ChoiceKey} :
    forType type = .choice category ↔ type.category? = some category := by
  cases type with
  | choice other multiple =>
      exact ⟨fun same => congrArg some (WidgetKind.choice.inj same),
        fun same => congrArg WidgetKind.choice (Option.some.inj same)⟩
  | _ => exact ⟨nofun, nofun⟩

/-- A stored column refers to the entity that it stands on, or to what its property is bound to. -/
theorem Property.target_of_mem_elements {property : Property} {owner : EntityKey}
    (owned : property.owner = some owner) {element : StoredElement}
    (mem : element ∈ property.elements) {target : BindingTarget}
    (refers : element.type.target? = some target) :
    target = .entity owner ∨ ∃ binding ∈ property.kind.bindings, binding.target = target := by
  rw [elements, owned] at mem
  cases kind : property.kind <;>
    simp only [kind, PropertyKind.elements, List.mem_cons, List.not_mem_nil, or_false] at mem
  all_goals
    rcases mem with rfl | rfl <;> simp_all [FieldType.target?, PropertyKind.bindings]

namespace Composer

variable {schema : Schema} {key : EntityKey} {property : Property}

theorem isUnresolved_eq {binding : Binding} :
    isUnresolved schema binding = !schema.resolves binding.target := by
  unfold isUnresolved
  cases binding.target with
  | entity => rfl
  | choice category =>
      cases found : schema.catalog.category? category <;> simp [Schema.resolves, found]

/-- The dependency of a schedule is not looked up yet. -/
theorem bindingFault?_eq_none_iff :
    bindingFault? schema key property = none ↔
      (property.tag ≠ .schedule →
        ∀ binding ∈ property.kind.bindings, schema.resolves binding.target = true) := by
  unfold bindingFault? Property.tag
  cases property.kind <;>
    simp [PropertyKind.tag, PropertyKind.bindings, isUnresolved_eq]

end Composer

namespace Entity

variable {schema after : Schema} {entity grown : Entity}

/-- The widget is of a kind that may be declared for its column: the kind that fits the type, or a
choice of a registered category for choices or text. -/
def Shows (schema : Schema) (entity : Entity) (widget : SearchWidget) : Prop :=
  ∃ type label chosen, entity.resolveElement? widget.element = some (type, label) ∧
    widget.kind = declaredKind type chosen ∧
    (∀ category, chosen = some category → schema.resolves (.choice category) = true) ∧
    choiceFault? widget.element type widget.kind = none

/-- What was looked up when it was attached: the categories of choice columns, the parameters of
properties other than schedules, and the categories of widgets. -/
structure Bound (schema : Schema) (entity : Entity) : Prop where
  fields : ∀ field ∈ entity.fields, ∀ category, field.type.category? = some category →
    schema.resolves (.choice category) = true
  properties : ∀ property ∈ entity.properties, property.tag ≠ .schedule →
    ∀ binding ∈ property.kind.bindings, schema.resolves binding.target = true
  widgets : ∀ widget ∈ entity.searchWidgets, entity.Shows schema widget

/-- A new entity binds nothing. -/
theorem Bound.declared (schema : Schema) (key : EntityKey) (label : String) :
    ({ key, label } : Entity).Bound schema where
  fields := by simp
  properties := by simp
  widgets := by simp

/-- What is bound stays bound as long as nothing is taken away. -/
theorem Bound.mono (bound : entity.Bound schema)
    (kept : ∀ target, schema.resolves target = true → after.resolves target = true) :
    entity.Bound after where
  fields := fun field mem category held => kept _ (bound.fields field mem category held)
  properties := fun property mem unscheduled binding inBindings =>
    kept _ (bound.properties property mem unscheduled binding inBindings)
  widgets := by
    intro widget mem
    obtain ⟨type, label, chosen, resolved, kind, registered, fits⟩ := bound.widgets widget mem
    exact ⟨type, label, chosen, resolved, kind,
      fun category same => kept _ (registered category same), fits⟩

/-- Rules, visibility, hooks and settings of properties do not matter. -/
theorem Bound.of_identities (bound : entity.Bound schema) {properties : List Property}
    (same : properties.map Property.identity = entity.properties.map Property.identity) :
    { entity with properties }.Bound schema where
  fields := bound.fields
  properties := by
    intro property mem
    have inOld : property.identity ∈ entity.properties.map Property.identity :=
      same ▸ List.mem_map_of_mem mem
    obtain ⟨other, otherMem, equal⟩ := List.mem_map.mp inOld
    have sameKind : other.kind = property.kind := congrArg (fun identity => identity.2.1) equal
    rw [Property.tag, ← sameKind]
    exact bound.properties other otherMem
  widgets := by
    intro widget mem
    rw [Shows, resolveElement?_eq_of_identities same]
    exact bound.widgets widget mem

/-- The category of a stored column is the parameter of a lifecycle. -/
theorem resolves_of_mem_elements {property : Property} {owner : EntityKey}
    (owned : property.owner = some owner)
    (bound : property.tag ≠ .schedule →
      ∀ binding ∈ property.kind.bindings, schema.resolves binding.target = true)
    {element : StoredElement} (mem : element ∈ property.elements) {category : ChoiceKey}
    (held : element.type.category? = some category) :
    schema.resolves (.choice category) = true := by
  have unscheduled : property.tag ≠ .schedule := by
    intro scheduled
    rw [Property.elements, owned] at mem
    cases kind : property.kind <;> simp_all [Property.tag, PropertyKind.tag, PropertyKind.elements]
  rcases Property.target_of_mem_elements owned mem (FieldType.target?_eq_choice_iff.mpr held) with
    same | ⟨binding, inBindings, same⟩
  · contradiction
  · exact same ▸ bound unscheduled binding inBindings

/-- The category of a searchable column is registered. -/
theorem Bound.resolves_of_resolveElement? (bound : entity.Bound schema)
    (wellFormed : entity.WellFormed) {element : ElementRef} {type : FieldType} {label : String}
    (resolved : entity.resolveElement? element = some (type, label)) {category : ChoiceKey}
    (held : type.category? = some category) : schema.resolves (.choice category) = true := by
  rcases field_or_stored_of_resolveElement? resolved with
    ⟨field, mem, -, rfl⟩ | ⟨property, mem, stored, inElements, -, rfl⟩
  · exact bound.fields field mem category held
  · exact resolves_of_mem_elements (wellFormed.owned property mem) (bound.properties property mem)
      inElements held

/-- The category that a widget chooses from is registered: it was given with the widget, or it is
the category of the column. -/
theorem Bound.resolves_of_choice (bound : entity.Bound schema) (wellFormed : entity.WellFormed)
    {widget : SearchWidget} (mem : widget ∈ entity.searchWidgets) {category : ChoiceKey}
    (shown : widget.kind = .choice category) : schema.resolves (.choice category) = true := by
  rcases bound.widgets widget mem with ⟨type, label, chosen, resolved, kind, registered, -⟩
  rw [shown] at kind
  cases chosen with
  | some other =>
      obtain rfl : category = other := WidgetKind.choice.inj kind
      exact registered category rfl
  | none =>
      apply bound.resolves_of_resolveElement? wellFormed resolved
      exact WidgetKind.forType_eq_choice_iff.mp kind.symm

theorem mem_propertyWidgets {property : Property} {widget : SearchWidget}
    (mem : widget ∈ propertyWidgets property) :
    ∃ element ∈ property.elements, widget.element = .property property.name element.name ∧
      widget.kind = .forType element.type := by
  unfold propertyWidgets at mem
  split at mem
  · contradiction
  · obtain ⟨element, searchable, rfl⟩ := List.mem_map.mp mem
    exact ⟨element, (List.mem_filter.mp searchable).1, rfl, rfl⟩

/-- A widget of the kind that fits its column needs nothing else. -/
theorem shows_of_forType {widget : SearchWidget} {type : FieldType} {label : String}
    (resolved : entity.resolveElement? widget.element = some (type, label))
    (kind : widget.kind = .forType type) : entity.Shows schema widget := by
  refine ⟨type, label, none, resolved, kind, nofun, ?_⟩
  rw [kind]
  cases type <;> rfl

/-- The widget of a field that was just added is of the kind that fits the field. -/
theorem shows_fieldWidget {field : Field} {stored : Entity}
    (added : entity.addField field = .ok stored) :
    (entity.withField field).Shows schema (fieldWidget field) := by
  have found : (entity.withField field).resolveElement? (.field field.name) =
      some (field.type, field.label) := by
    have known := field?_of_addField added
    rw [← (addField_eq_ok_iff.mp added).2] at known
    exact congrArg (Option.map fun field => (field.type, field.label)) known
  exact shows_of_forType found rfl

/-- The widgets of a property that was just added are of the kinds that fit its elements. -/
theorem shows_propertyWidgets {property : Property} {owner : EntityKey}
    (owned : property.owner = some owner) {stored : Entity}
    (added : entity.addProperty property = .ok stored) {widget : SearchWidget}
    (mem : widget ∈ propertyWidgets property) :
    (entity.withProperty property).Shows schema widget := by
  obtain ⟨element, inElements, column, kind⟩ := mem_propertyWidgets mem
  have known := property?_of_addProperty added
  rw [← (addProperty_eq_ok_iff.mp added).2.2.2] at known
  have found : (entity.withProperty property).resolveElement? widget.element =
      some (element.type, element.label) := by
    rw [column]
    exact (congrArg (Option.bind · _) known).trans
      (congrArg (Option.bind · _) (Property.find?_elements owned inElements))
  exact shows_of_forType found kind

namespace Addition

/-- A searchable column keeps its type and label. -/
theorem resolveElement?_eq (added : Addition schema entity grown) {element : ElementRef}
    {found : FieldType × String} (resolved : entity.resolveElement? element = some found) :
    grown.resolveElement? element = some found := by
  cases added with
  | description => exact resolved
  | @field field =>
      have kept := resolveElement?_append resolved [field] []
      rw [List.append_nil] at kept
      cases element <;> exact kept
  | @property pending =>
      have kept := resolveElement?_append resolved [] [pending.bound]
      rw [List.append_nil] at kept
      cases element <;> exact kept
  | rule found fits added =>
      obtain ⟨properties, rfl, same⟩ :=
        exists_properties_of_addRule Property.identity (fun _ _ => rfl) added
      rwa [resolveElement?_eq_of_identities same]
  | hook added =>
      obtain ⟨properties, rfl, same⟩ :=
        exists_properties_of_addHook Property.identity (fun _ _ => rfl) added
      rwa [resolveElement?_eq_of_identities same]
  | widget _ added =>
      rw [addWidget_ok_eq added]
      exact resolved
  | tab identifier added =>
      rw [← (addTab_eq_ok_iff.mp added).2.2]
      exact resolved
  | loaderAlias added =>
      rw [← (addAlias_eq_ok_iff.mp added).2]
      exact resolved

/-- A widget stays of the kind that fits its column. -/
theorem shows (added : Addition schema entity grown) {widget : SearchWidget}
    (shown : entity.Shows schema widget) : grown.Shows schema widget := by
  obtain ⟨type, label, chosen, resolved, fits⟩ := shown
  exact ⟨type, label, chosen, added.resolveElement?_eq resolved, fits⟩

/-- What an addition attaches was looked up before. -/
theorem bound (added : Addition schema entity grown) (sound : entity.Bound schema) :
    grown.Bound schema := by
  have old : ∀ widget ∈ entity.searchWidgets, grown.Shows schema widget :=
    fun widget mem => added.shows (sound.widgets widget mem)
  cases added with
  | description => exact ⟨sound.fields, sound.properties, old⟩
  | @field field stored problem category added shown =>
      have new : ∀ widget ∈ if field.searchable then [fieldWidget field] else [],
          (entity.withField field).Shows schema widget := by
        split
        · exact List.forall_mem_singleton.mpr (shows_fieldWidget added)
        · exact List.forall_mem_nil _
      exact
        { fields := List.forall_mem_append.mpr
            ⟨sound.fields, List.forall_mem_singleton.mpr category⟩
          properties := sound.properties
          widgets := List.forall_mem_append.mpr ⟨old, new⟩ }
  | @property pending stored target identifier rules bindings unowned added shown =>
      have registered := bindingFault?_eq_none_iff.mp bindings
      exact
        { fields := sound.fields
          properties := List.forall_mem_append.mpr
            ⟨sound.properties, List.forall_mem_singleton.mpr registered⟩
          widgets := List.forall_mem_append.mpr
            ⟨old, fun widget => shows_propertyWidgets rfl added⟩ }
  | rule found fits added =>
      obtain ⟨properties, rfl, same⟩ :=
        exists_properties_of_addRule Property.identity (fun _ _ => rfl) added
      exact sound.of_identities same
  | hook added =>
      obtain ⟨properties, rfl, same⟩ :=
        exists_properties_of_addHook Property.identity (fun _ _ => rfl) added
      exact sound.of_identities same
  | @widget widget grown type label chosen resolved added kind registered fits =>
      obtain rfl := addWidget_ok_eq added
      have new : { entity with searchWidgets := entity.searchWidgets ++ [widget] }.Shows schema
          widget := by
        refine ⟨type, label, chosen, ?_, kind, registered, fits⟩
        cases element : widget.element <;> exact element ▸ resolved
      exact
        { fields := sound.fields
          properties := sound.properties
          widgets := List.forall_mem_append.mpr ⟨old, List.forall_mem_singleton.mpr new⟩ }
  | tab identifier added =>
      obtain ⟨-, -, rfl⟩ := addTab_eq_ok_iff.mp added
      exact ⟨sound.fields, sound.properties, old⟩
  | loaderAlias added =>
      obtain ⟨-, rfl⟩ := addAlias_eq_ok_iff.mp added
      exact ⟨sound.fields, sound.properties, old⟩

end Addition

end Entity

/-! ## Throughout a run -/

namespace Schema

variable {schema after : Schema}

theorem Growth.bound (growth : schema.Growth after) (wellFormed : schema.WellFormed)
    (bound : ∀ entity ∈ schema.entities, entity.Bound schema) :
    ∀ entity ∈ after.entities, entity.Bound after := by
  induction growth with
  | refl => exact bound
  | @step last key found grown growth known added ih =>
      have sound := growth.wellFormed wellFormed
      have before := (sound.entity?_eq_some_iff.mp known).1
      have kept : ∀ target, last.resolves target = true →
          (last.replace key grown).resolves target = true := by
        intro target resolved
        obtain ⟨entities, same⟩ := replace_eq_with_entities last key grown
        rw [same]
        cases target <;> exact resolved
      obtain ⟨position, entered, -⟩ := entity?_eq_some_iff_getElem?.mp known
      intro entity mem
      refine Entity.Bound.mono ?_ kept
      rw [replace_eq entered] at mem
      rcases List.mem_or_eq_of_mem_set mem with old | rfl
      · exact ih entity old
      · exact added.bound (ih found before)

theorem Change.bound (change : schema.Change after) (wellFormed : schema.WellFormed)
    (bound : ∀ entity ∈ schema.entities, entity.Bound schema) :
    ∀ entity ∈ after.entities, entity.Bound after := by
  have settled : ∀ entity ∈ (finalizeEach schema.entities).1, entity.Bound schema := by
    intro entity mem
    rcases mem_finalizeEach mem with old | ⟨before, old, rfl⟩
    · exact bound entity old
    · obtain ⟨finalized, same⟩ := before.exists_finalize_eq
      have settled := (bound before old).of_identities before.map_identity_settling
      rw [same]
      exact ⟨settled.fields, settled.properties, settled.widgets⟩
  have kept : ∀ target, schema.resolves target = true → after.resolves target = true :=
    fun _ => change.resolves
  cases change with
  | nothing => exact bound
  | grown composing growth => exact growth.bound wellFormed bound
  | declared composing namespaced identifier fresh label =>
      intro entity mem
      rcases List.mem_append.mp mem with old | new
      · exact (bound entity old).mono kept
      · rw [List.mem_singleton.mp new]
        exact .declared _ _ _
  | namespaced | categorized => exact fun entity mem => (bound entity mem).mono kept
  | interrupted | finished => exact fun entity mem => (settled entity mem).mono kept

/-- Every dependency of a schedule and every parent that a rule asks for is an entity of the
schema. -/
def DeferredBound (schema : Schema) : Prop :=
  ∀ entity ∈ schema.entities, ∀ property ∈ entity.properties,
    ∀ key ∈ deferredBindings property, schema.resolves (.entity key) = true

theorem WellFormed.unresolvedBinding?_eq_none_iff (wellFormed : schema.WellFormed) :
    unresolvedBinding? schema = none ↔ schema.DeferredBound := by
  simp only [Composer.unresolvedBinding?_eq_none_iff wellFormed, DeferredBound,
    wellFormed.resolves_entity_iff]

/-- Finalization leaves open bindings as they are. -/
theorem DeferredBound.finalizeEach (bound : schema.DeferredBound)
    (succeeded : (finalizeEach schema.entities).2 = none) :
    { schema with
      entities := (Composer.finalizeEach schema.entities).1
      phase := .finalized }.DeferredBound := by
  intro entity mem property stored key deferred
  obtain ⟨before, old, done⟩ := exists_finalize_of_mem_finalizeEach succeeded mem
  rw [Entity.finalize_eq_of_none (congrArg Prod.snd done), Prod.mk.injEq] at done
  obtain ⟨rfl, -⟩ := done
  have same : before.settling.1.map deferredBindings = before.properties.map deferredBindings :=
    Property.map_eq_map_of_unresolved (fun _ => rfl) before.map_unresolved_settling
  obtain ⟨former, formerMem, equal⟩ := List.mem_map.mp
    (same ▸ List.mem_map_of_mem stored : deferredBindings property ∈ _)
  exact bound before old former formerMem key (equal ▸ deferred)

namespace Reachable

theorem bound (reached : schema.Reachable) : ∀ entity ∈ schema.entities, entity.Bound schema := by
  induction reached with
  | start name => nofun
  | step command reached ih =>
      exact (execute_change reached.wellFormed command).bound reached.wellFormed ih

theorem deferredBound (reached : schema.Reachable) (finalized : schema.phase = .finalized) :
    schema.DeferredBound := by
  induction reached with
  | start name => contradiction
  | step command reached ih =>
      rcases (execute_change reached.wellFormed command).eq_or_finished finalized with
        same | ⟨unbound, succeeded, finished⟩
      · rw [same] at finalized ⊢
        exact ih finalized
      · rw [finished]
        exact (reached.wellFormed.unresolvedBinding?_eq_none_iff.mp unbound).finalizeEach succeeded

/-- In a finalized schema, all parameters of all properties are resolved. -/
theorem resolves_of_mem_bindings (reached : schema.Reachable)
    (finalized : schema.phase = .finalized) {entity : Entity} (mem : entity ∈ schema.entities)
    {property : Property} (stored : property ∈ entity.properties) {binding : Binding}
    (inBindings : binding ∈ property.kind.bindings) : schema.resolves binding.target = true := by
  by_cases scheduled : property.tag = .schedule
  · obtain ⟨dependency, kind⟩ := PropertyKind.tag_eq_schedule_iff.mp scheduled
    rw [kind] at inBindings
    obtain rfl := List.mem_singleton.mp inBindings
    exact reached.deferredBound finalized entity mem property stored dependency
      (mem_deferredBindings_iff.mpr (Or.inl kind))
  · exact (reached.bound entity mem).properties property stored scheduled binding inBindings

end Reachable

end Schema

end EntitySurface
