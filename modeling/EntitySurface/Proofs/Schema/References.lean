import EntitySurface.Demo
import EntitySurface.Proofs.Derivation.References
import EntitySurface.Proofs.Schema.Files
import EntitySurface.Proofs.Schema.Search

/-!
# References that lead nowhere

A category is registered before anything is bound to it, and the entities that properties are bound
to exist once the schema is finished. So whatever a generated surface refers to is there, with one
exception: nobody looks up the entity whose objects a field stands for. Where such a field is
searched, the search refers to an entity that may not exist.
-/

namespace EntitySurface

/-- The search of the entity takes an object of the given entity for a field that stands for one. -/
def Entity.SearchesObjectsOf (entity : Entity) (key : EntityKey) : Prop :=
  entity.hasShowSurface = true ∧
    ∃ widget ∈ entity.searchWidgets, ∃ field ∈ entity.fields,
      widget.element = .field field.name ∧ field.type = .objectId key

instance (entity : Entity) (key : EntityKey) : Decidable (entity.SearchesObjectsOf key) :=
  inferInstanceAs (Decidable (_ ∧ _))

namespace Entity

variable {schema : Schema} {entity : Entity} {widget : SearchWidget}

/-- The categories that a search refers to are registered. -/
theorem Bound.resolves_of_searched (bound : entity.Bound schema) (wellFormed : entity.WellFormed)
    (mem : widget ∈ entity.searchWidgets) {category : ChoiceKey}
    (refers : (entity.widgetArgument widget).kind.target? = some (.choice category)) :
    schema.resolves (.choice category) = true := by
  obtain ⟨type, label, -, resolved, -⟩ := bound.widgets widget mem
  have held (same : type.target? = some (.choice category)) :
      schema.resolves (.choice category) = true :=
    bound.resolves_of_resolveElement? wellFormed resolved (FieldType.target?_eq_choice_iff.mp same)
  rw [widgetArgument_eq resolved] at refers
  cases shown : widget.kind with
  | text | exact =>
      rw [shown] at refers
      exact held refers
  | dateRange =>
      rw [shown] at refers
      contradiction
  | choice offered =>
      rw [shown] at refers
      obtain rfl : offered = category := by simpa [WidgetKind.inputKind, ArgumentKind.target?,
        FieldType.target?] using refers
      exact bound.resolves_of_choice wellFormed mem shown

/-- A search refers to an entity by the type of a column. -/
theorem target?_column_of_searched {type : FieldType} {label : String} {key : EntityKey}
    (resolved : entity.resolveElement? widget.element = some (type, label))
    (refers : (entity.widgetArgument widget).kind.target? = some (.entity key)) :
    type.target? = some (.entity key) := by
  rw [widgetArgument_eq resolved] at refers
  cases shown : widget.kind <;> rw [shown] at refers
  case text | exact => exact refers
  all_goals simp [WidgetKind.inputKind, ArgumentKind.target?, FieldType.target?] at refers

/-- The only widget for objects of an entity refers to this entity. -/
theorem Bound.searches (bound : entity.Bound schema) (wellFormed : entity.WellFormed)
    (mem : widget ∈ entity.searchWidgets) {field : Field} (inFields : field ∈ entity.fields)
    (element : widget.element = .field field.name) {key : EntityKey}
    (type : field.type = .objectId key) :
    (entity.widgetArgument widget).kind.target? = some (.entity key) := by
  obtain ⟨shown, label, chosen, resolved, kind, -, fits⟩ := bound.widgets widget mem
  have found : entity.resolveElement? widget.element = some (.objectId key, field.label) := by
    rw [element, ← type]
    exact congrArg (Option.map fun field => (field.type, field.label))
      (wellFormed.field?_eq_some_of_mem inFields)
  obtain ⟨rfl, rfl⟩ : .objectId key = shown ∧ field.label = label := by
    simpa using found.symm.trans resolved
  rw [widgetArgument_eq found, kind]
  cases chosen with
  | none => rfl
  | some category =>
      -- objects are no choices, so no category is declared for them
      rw [kind] at fits
      contradiction

end Entity

namespace Schema.Reachable

variable {schema : Schema} {entity : Entity} {rules : List DerivationRule}

/-- What comes from an entity resolves, except for what a search takes by the type of a field. -/
theorem resolves_of_mentions (reached : schema.Reachable) (finalized : schema.phase = .finalized)
    (mem : entity ∈ schema.entities) {target : BindingTarget}
    (mentions : entity.Mentions rules target) :
    schema.resolves target = true ∨
      ∃ key, target = .entity key ∧ .showing ∈ rules ∧ entity.SearchesObjectsOf key := by
  have wellFormed := reached.wellFormed.entities entity mem
  have known : schema.resolves (.entity entity.key) = true :=
    reached.wellFormed.resolves_entity_iff.mpr ⟨entity, mem, rfl⟩
  cases mentions with
  | self => exact .inl known
  | bound stored inBindings =>
      exact .inl (reached.resolves_of_mem_bindings finalized mem stored inBindings)
  | @searched widget _ inRules shown inWidgets refers =>
      have bound := reached.bound entity mem
      cases target with
      | choice category => exact .inl (bound.resolves_of_searched wellFormed inWidgets refers)
      | entity key =>
          obtain ⟨type, label, chosen, resolved, -⟩ := bound.widgets widget inWidgets
          have column := Entity.target?_column_of_searched resolved refers
          rcases Entity.field_or_stored_of_resolveElement? resolved with
            ⟨field, inFields, element, rfl⟩ | ⟨property, stored, part, inElements, -, rfl⟩
          · -- nothing says that the entity of a field exists
            exact .inr ⟨key, rfl, inRules, shown, widget, inWidgets, field, inFields, element,
              FieldType.target?_eq_entity_iff.mp column⟩
          · rcases Property.target_of_mem_elements (wellFormed.owned property stored) inElements
              column with same | ⟨binding, inBindings, same⟩
            · exact .inl (same ▸ known)
            · exact .inl (same ▸ reached.resolves_of_mem_bindings finalized mem stored inBindings)

/-- Whatever category the surfaces of a generated project refer to is registered. A surface refers
to an entity that does not exist exactly when the search takes it for a field that stands for one of
its objects. -/
theorem references_resolve_iff (reached : schema.Reachable) {settings : GenerationSettings}
    {project : Project} (generated : schema.generate settings rules = .ok project) :
    List.Forall₂ (fun entity surface =>
        (∀ category, .choice category ∈ surface.targets →
          ∃ registered, schema.catalog.category? category = some registered) ∧
        ∀ key, (¬∃ other ∈ schema.entities, other.key = key) →
          (.entity key ∈ surface.targets ↔ .showing ∈ rules ∧ entity.SearchesObjectsOf key))
      schema.entities project.surfaces := by
  have finalized := phase_of_generate generated
  have paired := (List.forall₂_and_left _ _).mpr
    ⟨fun _ (mem : _ ∈ schema.entities) => mem, forall₂_surfaces_of_generate generated⟩
  refine paired.imp fun entity surface ⟨mem, derived⟩ => ?_
  have wellFormed := reached.wellFormed.entities entity mem
  have resolves {target : BindingTarget} (inTargets : target ∈ surface.targets) :=
    reached.resolves_of_mentions finalized mem
      (Surface.mentions_of_mem_targets derived (reached.settled finalized entity mem) wellFormed
        inTargets)
  refine ⟨fun category inTargets => ?_, fun key undeclared => ⟨fun inTargets => ?_, ?_⟩⟩
  · rcases resolves inTargets with resolved | ⟨key, same, -⟩
    · exact Option.isSome_iff_exists.mp resolved
    · contradiction
  · rcases resolves inTargets with resolved | ⟨other, same, searched⟩
    · exact absurd (reached.wellFormed.resolves_entity_iff.mp resolved) undeclared
    · exact BindingTarget.entity.inj same ▸ searched
  · rintro ⟨inRules, shown, widget, inWidgets, field, inFields, element, type⟩
    exact Surface.mem_targets_of_searched derived inRules shown inWidgets
      ((reached.bound entity mem).searches wellFormed inWidgets inFields element type)

/-- An entity that no schema declares here. -/
def seller : EntityKey := ⟨"sales", "Seller"⟩

/-- The surfaces of customers and invoices refer to what is there, and not to sellers. -/
theorem references_resolve_invoices :
    let schema := (({ name := "sales" } : Schema).executeAll searchedInvoices).1
    schema.entities.map Entity.key = [Demo.Sales.customer, Demo.Sales.invoice] ∧
      ∃ project, schema.generate {} = .ok project ∧
        List.Forall₂ (fun _ surface => .entity seller ∉ surface.targets ∧
            ∀ category, .choice category ∈ surface.targets →
              ∃ registered, schema.catalog.category? category = some registered)
          schema.entities project.surfaces := by
  intro schema
  have derivable : (schema.deriveAll DerivationRule.standard).toOption.isSome = true := by
    decide +kernel
  have undeclared : ¬∃ other ∈ schema.entities, other.key = seller := by decide +kernel
  have unsearched : ∀ entity ∈ schema.entities, ¬entity.SearchesObjectsOf seller := by
    decide +kernel
  obtain ⟨project, generated⟩ := exists_generate_of_deriveAll {} derivable
  have reached : schema.Reachable := (Reachable.start "sales").executeAll searchedInvoices
  have unsold := (List.forall₂_and_left _ _).mpr
    ⟨unsearched, reached.references_resolve_iff generated⟩
  refine ⟨by decide +kernel, project, generated, unsold.imp fun entity surface found => ?_⟩
  obtain ⟨free, categories, refers⟩ := found
  exact ⟨fun inTargets => free ((refers seller undeclared).mp inTargets).2, categories⟩

/-- Invoices of sellers. -/
def soldInvoices : List Command :=
  Demo.identified Demo.Sales.invoice "Invoice" "A bill" ++
    [.field Demo.Sales.invoice
      { name := "SELLER", label := "Seller", type := .objectId seller, searchable := true },
     .finish]

/-- Invoices are searched by their seller, although sellers are no entities. -/
theorem references_dangle_soldInvoices :
    let schema := (({ name := "sales" } : Schema).executeAll soldInvoices).1
    schema.Reachable ∧ schema.phase = .finalized ∧
      (schema.validate ValidationRule.standard).isValid = true ∧
      (¬∃ other ∈ schema.entities, other.key = seller) ∧
      ∃ project, schema.generate {} = .ok project ∧
        ∃ surface ∈ project.surfaces, .entity seller ∈ surface.targets := by
  intro schema
  have dangling : (schema.deriveAll DerivationRule.standard).toOption.any (fun found =>
      found.2.any fun item => item.surface.targets.contains (.entity seller)) = true := by
    decide +kernel
  refine ⟨(Reachable.start "sales").executeAll soldInvoices, by decide +kernel, by decide +kernel,
    by decide +kernel, ?_⟩
  cases outcome : schema.deriveAll DerivationRule.standard with
  | error fault => simp [outcome, Except.toOption] at dangling
  | ok found =>
      obtain ⟨project, generated⟩ := exists_generate_of_deriveAll {}
        (congrArg (Option.isSome ∘ Except.toOption) outcome)
      obtain ⟨warnings, derived, files, same, -, rfl⟩ := exists_assemble_of_generate generated
      obtain rfl : found = (warnings, derived) := Except.ok.inj (outcome.symm.trans same)
      have refers : ∃ item ∈ derived, .entity seller ∈ item.surface.targets := by
        simpa [outcome, Except.toOption] using dangling
      obtain ⟨item, mem, inTargets⟩ := refers
      exact ⟨_, generated, item.surface, List.mem_map_of_mem mem, inTargets⟩

end Schema.Reachable

end EntitySurface
