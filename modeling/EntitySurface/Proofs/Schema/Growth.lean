import EntitySurface.Proofs.Schema.Composer
import EntitySurface.Proofs.Schema.WellFormed

/-!
# Growth of entities

A successful step of composition adds to one entity, or to several of them one after another when a
property implies companions. An addition is listed with everything that was checked before it was
made, so that what additions keep can be proved without going back to the steps.
-/

namespace EntitySurface

open Composer

namespace Entity

/-- The entity with a field and, if the field is searchable, the widget of the field. -/
def withField (entity : Entity) (field : Field) : Entity :=
  { entity with
    fields := entity.fields ++ [field]
    searchWidgets := entity.searchWidgets ++
      if field.searchable then [fieldWidget field] else [] }

/-- The entity with a property and the widgets that the property brings along. -/
def withProperty (entity : Entity) (property : Property) : Entity :=
  { entity with
    properties := entity.properties ++ [property]
    searchWidgets := entity.searchWidgets ++ propertyWidgets property }

/-- An addition that a step makes to an entity of a schema. -/
inductive Addition (schema : Schema) (entity : Entity) : Entity → Prop where
  | description (text : String) : Addition schema entity { entity with description := some text }
  | field {field : Field} {stored : Entity} (sound : field.problem? = none)
      (category : ∀ category, field.type.category? = some category →
        (schema.catalog.category? category).isSome)
      (added : entity.addField field = .ok stored)
      (shown : field.searchable = true →
        stored.addWidget (fieldWidget field) = .ok (entity.withField field)) :
      Addition schema entity (entity.withField field)
  | property {pending : Pending} {stored : Entity} (target : pending.target = entity.key)
      (identifier : Name.identifierProblem? pending.property.name = none)
      (rules : rulesFault? pending.target pending.property = none)
      (bindings : bindingFault? schema pending.target pending.property = none)
      (unowned : pending.property.owner = none)
      (added : entity.addProperty pending.bound = .ok stored)
      (shown : (propertyWidgets pending.bound).foldlM addWidget stored =
        .ok (entity.withProperty pending.bound)) :
      Addition schema entity (entity.withProperty pending.bound)
  | rule {name : String} {rule : BusinessRule} {attached : Property} {grown : Entity}
      (found : entity.property? name = some attached)
      (fits : ruleFault? entity.key attached rule = none)
      (added : entity.addRule name rule = .ok grown) : Addition schema entity grown
  | hook {hook : MethodHook} {grown : Entity} (added : entity.addHook hook = .ok grown) :
      Addition schema entity grown
  | widget {widget : SearchWidget} {grown : Entity} {type : FieldType} {label : String}
      {chosen : Option ChoiceKey}
      (resolved : entity.resolveElement? widget.element = some (type, label))
      (added : entity.addWidget widget = .ok grown)
      (kind : widget.kind = declaredKind type chosen)
      (registered : ∀ category, chosen = some category →
        (schema.catalog.category? category).isSome)
      (fits : choiceFault? widget.element type widget.kind = none) : Addition schema entity grown
  | tab {tab : DisplayTab} {grown : Entity}
      (identifier : Name.identifierProblem? tab.name = none)
      (added : entity.addTab tab = .ok grown) : Addition schema entity grown
  | loaderAlias {header : LoaderAlias} {grown : Entity}
      (added : entity.addAlias header = .ok grown) : Addition schema entity grown

/-! ## Widgets that come with a field or a property -/

section Widgets

variable {entity stored grown : Entity}

theorem addWidget_ok_eq {widget : SearchWidget} (added : entity.addWidget widget = .ok grown) :
    grown = { entity with searchWidgets := entity.searchWidgets ++ [widget] } :=
  (addWidget_eq_ok_iff.mp added).2.symm

/-- Widgets that are added one by one stand in their order at the end. -/
theorem foldlM_addWidget_ok_eq {widgets : List SearchWidget}
    (added : widgets.foldlM addWidget entity = .ok grown) :
    grown = { entity with searchWidgets := entity.searchWidgets ++ widgets } := by
  induction widgets generalizing entity with
  | nil =>
      cases added
      simp
  | cons widget rest ih =>
      rw [List.foldlM_cons] at added
      cases first : entity.addWidget widget with
      | error fault =>
          rw [first] at added
          contradiction
      | ok next =>
          rw [first] at added
          rw [ih added, addWidget_ok_eq first]
          simp

/-- Widgets of existing columns may be added one by one. -/
theorem WellFormed.addWidgets (wellFormed : entity.WellFormed) {widgets : List SearchWidget}
    (resolved : ∀ widget ∈ widgets, (entity.resolveElement? widget.element).isSome)
    (added : widgets.foldlM Entity.addWidget entity = .ok grown) : grown.WellFormed := by
  induction widgets generalizing entity with
  | nil =>
      cases added
      exact wellFormed
  | cons widget rest ih =>
      rw [List.foldlM_cons] at added
      cases first : entity.addWidget widget with
      | error fault =>
          rw [first] at added
          contradiction
      | ok next =>
          rw [first] at added
          refine ih (wellFormed.addWidget (resolved widget List.mem_cons_self) first) ?_ added
          rw [addWidget_ok_eq first]
          exact fun other mem => resolved other (List.mem_cons_of_mem _ mem)

/-- A field that was just added is found under its name. -/
theorem field?_of_addField {field : Field} (added : entity.addField field = .ok stored) :
    stored.field? field.name = some field := by
  obtain ⟨free, rfl⟩ := addField_eq_ok_iff.mp added
  have apart := columnClashes_eq_false_iff.mp free
  have unnamed : entity.fields.find? (fun other => other.name == field.name) = none := by
    rw [List.find?_eq_none]
    intro other mem named
    have clash := apart other.name (mem_columns_iff.mpr (Or.inl ⟨other, mem, rfl⟩))
    rw [eq_of_beq named, Text.equalIgnoringAsciiCase_refl] at clash
    contradiction
  simp [field?, unnamed]

/-- A property that was just added is found under its name. -/
theorem property?_of_addProperty {property : Property}
    (added : entity.addProperty property = .ok stored) :
    stored.property? property.name = some property := by
  obtain ⟨fresh, -, -, rfl⟩ := addProperty_eq_ok_iff.mp added
  simp only [property?] at fresh
  simp [property?, fresh]

/-- The widgets of a property lead to its elements. -/
theorem resolveElement?_propertyWidgets {property : Property}
    (found : stored.property? property.name = some property) {widget : SearchWidget}
    (mem : widget ∈ propertyWidgets property) : (stored.resolveElement? widget.element).isSome := by
  unfold propertyWidgets at mem
  split at mem
  · contradiction
  · obtain ⟨element, searchable, rfl⟩ := List.mem_map.mp mem
    have inElements := (List.mem_filter.mp searchable).1
    have present : (property.elements.find? fun candidate =>
        candidate.name == element.name).isSome := by
      rw [List.find?_isSome]
      exact ⟨element, inElements, BEq.rfl⟩
    obtain ⟨candidate, first⟩ := Option.isSome_iff_exists.mp present
    simp [resolveElement?, found, first]

end Widgets

namespace Addition

variable {schema : Schema} {entity grown : Entity}

/-- An addition keeps the key. -/
theorem key_eq (added : Addition schema entity grown) : grown.key = entity.key := by
  cases added with
  | rule found fits added => rcases eq_or_eq_withRule added with rfl | rfl <;> rfl
  | hook added => rw [← (addHook_eq_ok_iff.mp added).2]; rfl
  | widget resolved added => rw [addWidget_ok_eq added]
  | tab identifier added => rw [← (addTab_eq_ok_iff.mp added).2.2]
  | loaderAlias added => rw [← (addAlias_eq_ok_iff.mp added).2]
  | _ => rfl

/-- An addition keeps the entity well-formed. -/
theorem wellFormed (added : Addition schema entity grown) (sound : entity.WellFormed) :
    grown.WellFormed := by
  cases added with
  | description text => exact sound.describe (some text)
  | @field field stored problem category added shown =>
      have soundStored := sound.addField (Field.identifierProblem?_eq_none problem) added
      cases searchable : field.searchable with
      | true =>
          refine soundStored.addWidget ?_ (shown searchable)
          simp [fieldWidget, resolveElement?, field?_of_addField added]
      | false =>
          have same : entity.withField field = stored := by
            rw [← (addField_eq_ok_iff.mp added).2]
            simp [withField, searchable]
          rwa [same]
  | @property pending stored target identifier rules bindings unowned added shown =>
      have identifier : Name.identifierProblem? pending.bound.name = none := identifier
      have owner : pending.bound.owner = some entity.key := congrArg some target
      have soundStored := sound.addProperty identifier owner added
      have found := property?_of_addProperty added
      exact soundStored.addWidgets (fun _ => resolveElement?_propertyWidgets found) shown
  | rule found fits added =>
      rcases eq_or_eq_withRule added with rfl | rfl
      · exact sound
      · exact sound.withRule _ _
  | hook added =>
      rw [← (addHook_eq_ok_iff.mp added).2]
      exact sound.withHook _
  | widget resolved added => exact sound.addWidget (by simp [resolved]) added
  | tab identifier added => exact sound.addTab added
  | loaderAlias added => exact sound.addAlias added

end Addition

end Entity

end EntitySurface
