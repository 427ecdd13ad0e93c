import EntitySurface.Derivation.Rule
import EntitySurface.Proofs.Entity.Legacy

/-!
# What derivation reads of an entity

Derivation looks at the active properties of an entity and hardly at their settings: apart from the
arguments that creation and renumbering gained, what a rule contributes to the surface of a settled
entity can be computed from the entity without legacy properties and without settings.
-/

namespace EntitySurface

/-- The property whose element is searchable. -/
def ElementRef.property? : ElementRef → Option String
  | .field _ => none
  | .property name _ => some name

namespace Entity

variable (entity : Entity)

/-! ## Queries -/

theorem activeProperties_bare :
    entity.bare.activeProperties = entity.activeProperties.map Property.unresolved := by
  unfold bare activeProperties
  rw [List.filter_eq_self]
  intro property mem
  obtain ⟨other, inActive, rfl⟩ := List.mem_map.mp mem
  exact (List.mem_filter.mp inActive).2

theorem propertiesOf_bare (tag : PropertyTag) :
    entity.bare.propertiesOf tag = (entity.propertiesOf tag).map Property.unresolved := by
  rw [propertiesOf, activeProperties_bare, List.filter_map]
  rfl

theorem firstOf?_bare (tag : PropertyTag) :
    entity.bare.firstOf? tag = (entity.firstOf? tag).map Property.unresolved := by
  rw [firstOf?, activeProperties_bare, List.find?_map]
  rfl

theorem hasKind_bare (tag : PropertyTag) : entity.bare.hasKind tag = entity.hasKind tag := by
  rw [hasKind, activeProperties_bare, List.any_map]
  rfl

theorem subObjectLink?_bare :
    entity.bare.subObjectLink? = entity.subObjectLink?.map Property.unresolved := by
  rw [subObjectLink?, activeProperties_bare, List.find?_map]
  rfl

theorem isSubObject_bare : entity.bare.isSubObject = entity.isSubObject := by
  rw [isSubObject, subObjectLink?_bare, Option.isSome_map, isSubObject]

theorem isLink_bare : entity.bare.isLink = entity.isLink :=
  entity.hasKind_bare .linkObject

theorem isAutolink_bare : entity.bare.isAutolink = entity.isAutolink :=
  entity.hasKind_bare .autolinkObject

theorem parentLinks_bare :
    entity.bare.parentLinks = entity.parentLinks.map Property.unresolved :=
  entity.propertiesOf_bare .linkedToParent

/-- No search widget is declared on a legacy property. -/
def NoLegacyWidget : Prop :=
  ∀ widget ∈ entity.searchWidgets, ∀ property ∈ entity.properties, property.isLegacy = true →
    widget.element.property? ≠ some property.name

instance : Decidable entity.NoLegacyWidget :=
  inferInstanceAs (Decidable (∀ _ ∈ _, _))

variable {entity}

theorem property?_bare {name : String}
    (free : ∀ property ∈ entity.properties, property.isLegacy = true → property.name ≠ name) :
    entity.bare.property? name = (entity.property? name).map Property.unresolved := by
  have active : entity.activeProperties.find? (fun property => property.name == name) =
      entity.property? name := by
    cases found : entity.property? name with
    | none =>
        rw [property?, List.find?_eq_none] at found
        rw [List.find?_eq_none]
        exact fun property inActive => found property (mem_activeProperties_iff.mp inActive).1
    | some property =>
        obtain ⟨inProperties, named⟩ := mem_of_property?_eq_some found
        cases legacy : property.isLegacy with
        | true => exact absurd named (free property inProperties legacy)
        | false => exact find?_filter_of_find? found (by simp [legacy])
  rw [← active, property?, bare, List.find?_map]
  rfl

theorem resolveElement?_bare (free : entity.NoLegacyWidget) {widget : SearchWidget}
    (mem : widget ∈ entity.searchWidgets) :
    entity.bare.resolveElement? widget.element = entity.resolveElement? widget.element := by
  have unaffected := free widget mem
  cases element : widget.element with
  | field name => rfl
  | property name column =>
      have stored : entity.bare.property? name =
          (entity.property? name).map Property.unresolved :=
        property?_bare fun property inProperties legacy same =>
          unaffected property inProperties legacy (by rw [element, same]; rfl)
      simp only [resolveElement?, stored]
      cases entity.property? name <;> rfl

theorem widgetArgument_bare (free : entity.NoLegacyWidget) {widget : SearchWidget}
    (mem : widget ∈ entity.searchWidgets) :
    entity.bare.widgetArgument widget = entity.widgetArgument widget := by
  rw [widgetArgument, widgetArgument, resolveElement?_bare free mem]

theorem searchArguments_bare (free : entity.NoLegacyWidget) :
    entity.bare.searchArguments = entity.searchArguments :=
  List.map_congr_left fun _ mem => widgetArgument_bare free mem

theorem searchPageArguments_bare (free : entity.NoLegacyWidget) :
    entity.bare.searchPageArguments = entity.searchPageArguments :=
  List.map_congr_left fun _ mem => widgetArgument_bare free (List.mem_filter.mp mem).1

end Entity

namespace DerivationRule

variable {entity : Entity}

open EntitySurface.Derivation Entity

/-! ## Rules -/

/-- Which rules apply does not depend on legacy properties or settings. -/
theorem appliesTo_bare (rule : DerivationRule) (entity : Entity) :
    rule.appliesTo entity.bare = rule.appliesTo entity := by
  cases rule
  case showing => simp only [appliesTo, hasShowSurface, hasKind_bare, isLink_bare, isAutolink_bare]
  case numbering =>
    simp only [appliesTo, firstOf?_bare]
    cases entity.firstOf? .numbered <;> rfl
  all_goals simp only [appliesTo, hasKind_bare, isLink_bare, isAutolink_bare]

theorem mem_properties_of_mem_parentLinks {link : Property} (mem : link ∈ entity.parentLinks) :
    link ∈ entity.properties :=
  (mem_activeProperties_iff.mp (List.mem_filter.mp mem).1).1

/-- Parents go by the default names, so that the settings of the links are not needed. -/
theorem parentChanges_bare (settled : entity.Settled) :
    parentChanges entity.bare = parentChanges entity := by
  have subObjects : (entity.parentLinks.map Property.unresolved).filter Property.isSubObject =
      (entity.parentLinks.filter Property.isSubObject).map Property.unresolved := by
    rw [List.filter_map]
    rfl
  have changes : (entity.parentLinks.map Property.unresolved).flatMap (parentChange entity.bare) =
      entity.parentLinks.flatMap (parentChange entity) := by
    rw [List.flatMap_map]
    apply List.flatMap_congr
    intro link mem
    rw [parentChange, parentChange,
      settled.parentArgument?_eq (mem_properties_of_mem_parentLinks mem)]
    rfl
  unfold parentChanges
  rw [parentLinks_bare, subObjects, changes]
  rcases entity.parentLinks.filter Property.isSubObject with _ | ⟨first, _ | ⟨second, rest⟩⟩ <;> rfl

theorem deletion_bare (settled : entity.Settled) :
    Derivation.deletion entity.bare = Derivation.deletion entity := by
  unfold Derivation.deletion
  simp only [structuralRoles, isSubObject_bare, isLink_bare, isAutolink_bare, subObjectLink?_bare,
    firstOf?_bare, Option.map_map]
  cases found : entity.subObjectLink? with
  | none => rfl
  | some link =>
      have stored := (mem_activeProperties_iff.mp (List.mem_of_find?_eq_some found)).1
      simp only [Option.map_some, settled.parentArgument?_eq stored]
      rfl

/-- Apart from creation and numbering, no rule reads the settings of properties. -/
theorem contributions_bare (settled : entity.Settled) (free : entity.NoLegacyWidget)
    {rule : DerivationRule} (notCreate : rule ≠ .create) (notNumbering : rule ≠ .numbering) :
    rule.contributions entity.bare = rule.contributions entity := by
  cases rule
  case create | numbering => contradiction
  case showing =>
    simp only [contributions, Derivation.showing, searchArguments_bare free,
      searchPageArguments_bare free, isSubObject_bare, SearchPlan.forEntity, hasKind_bare]
    rfl
  case lifecycle =>
    simp only [contributions, stateChange, firstOf?_bare, Option.map_map]
    rfl
  case timeSlot => rfl
  case schedule => rfl
  case targetDate =>
    simp only [contributions, Derivation.targetDate, firstOf?_bare, hasKind_bare]
    cases entity.firstOf? .targetDate <;> rfl
  case parentLinks => exact parentChanges_bare settled
  case deletion => exact deletion_bare settled
  case history =>
    simp only [contributions, Derivation.history, hasKind_bare]
    rfl
  case workflow => rfl
  case link =>
    simp only [contributions, linking, firstOf?_bare]
    cases entity.firstOf? .linkObject <;> rfl
  case autolink =>
    simp only [contributions, autolinking, firstOf?_bare]
    cases entity.firstOf? .autolinkObject <;> rfl
  case children =>
    simp only [contributions, childCollections, propertiesOf_bare, List.flatMap_map]
    rfl
  case content =>
    simp only [contributions, images, attachments, propertiesOf_bare, hasKind_bare,
      List.flatMap_map]
    rfl
  case printOut =>
    simp only [contributions, printOuts, propertiesOf_bare, List.map_map]
    rfl

end DerivationRule

end EntitySurface
