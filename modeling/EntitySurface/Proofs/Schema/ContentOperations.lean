import EntitySurface.Demo
import EntitySurface.Proofs.Derivation.Inputs
import EntitySurface.Proofs.Derivation.Linked
import EntitySurface.Proofs.Schema.Reachable
import EntitySurface.Proofs.Surface.Derived
import EntitySurface.Proofs.Text.Capitalized
import EntitySurface.Validation.Rule
import Mathlib.Data.List.Dedup

/-!
# Operations on contents

The images and the print-outs of an entity are told apart by their names in Pascal case, which drops
underscores. Contents whose names agree in Pascal case ask for equal operations, and a surface takes
equal operations for one. So there can be fewer operations on contents than contents.
-/

namespace EntitySurface

/-! ## Operations of one name -/

/-- What is said about an operation besides its identifier and its entity. -/
def Operation.form (operation : Operation) :
    String × List Argument × List Argument × Option UInt64 × List GroupKind :=
  (operation.name, operation.inputs, operation.outputs, operation.criterion, operation.groups)

/-- The two have one form if they have one name. -/
def Operation.IsConsistentWith (first second : Operation) : Prop :=
  first.name = second.name → first.form = second.form

instance (first second : Operation) : Decidable (first.IsConsistentWith second) :=
  inferInstanceAs (Decidable (_ → _))

/-- Operations of an entity that have the same form are the same. -/
theorem Operation.BelongsTo.eq_of_form {key : EntityKey} {first second : Operation}
    (belongs : first.BelongsTo key) (otherBelongs : second.BelongsTo key)
    (same : first.form = second.form) : first = second := by
  simp only [form, Prod.mk.injEq] at same
  obtain ⟨name, inputs, outputs, criterion, groups⟩ := same
  have entity : first.entity = second.entity := belongs.entity.trans otherBelongs.entity.symm
  have id : first.id = second.id := by rw [belongs.id, otherBelongs.id, name]
  cases first
  cases second
  simp_all

namespace Surface

variable {rules : List DerivationRule} {entity : Entity} {surface : Surface}

/-- The operations that the rules contribute, each as often as it is contributed. -/
def contributedOperations (rules : List DerivationRule) (entity : Entity) : List Operation :=
  (contributed rules entity).filterMap Contribution.operation?

/-- The pages that the rules contribute, each as often as it is contributed. -/
def contributedPages (rules : List DerivationRule) (entity : Entity) : List Page :=
  (contributed rules entity).filterMap Contribution.page?

/-- A derivation succeeds if no rule fails and whatever shares a name has one form. -/
theorem exists_eq_ok_of_form (finalized : entity.finalized = true)
    (succeed : ∀ rule ∈ rules, rule.appliesTo entity = true →
      (rule.contributions entity).toOption.isSome = true)
    (operations : ∀ first ∈ contributedOperations rules entity,
      ∀ second ∈ contributedOperations rules entity, first.IsConsistentWith second)
    (pages : ∀ first ∈ contributedPages rules entity, ∀ second ∈ contributedPages rules entity,
      first.name = second.name → first = second) :
    ∃ surface, derive rules entity = .ok surface := by
  cases outcome : derive rules entity with
  | ok surface => exact ⟨surface, rfl⟩
  | error fault =>
      rcases derive_eq_error finalized outcome with ⟨rule, mem, applies, failed⟩ |
        ⟨name, held, refused, among, refusedAmong, clash, -⟩
      · obtain ⟨contributions, succeeded⟩ := exists_eq_ok_of_isSome (succeed rule mem applies)
        rw [failed] at succeeded
        contradiction
      · have inAll := mem_contributed_iff.mpr among
        have refusedInAll := mem_contributed_iff.mpr refusedAmong
        obtain ⟨rule, -, -, _, outcome, mem⟩ := among
        obtain ⟨other, -, -, _, otherOutcome, otherMem⟩ := refusedAmong
        cases clash with
        | operations named otherNamed different =>
            have same := operations _ (List.mem_filterMap.mpr ⟨_, inAll, rfl⟩) _
              (List.mem_filterMap.mpr ⟨_, refusedInAll, rfl⟩) (named.trans otherNamed.symm)
            exact absurd (Operation.BelongsTo.eq_of_form
              ((rule.belongsTo_or_shows outcome).1 _ mem)
              ((other.belongsTo_or_shows otherOutcome).1 _ otherMem) same) different
        | pages named otherNamed different =>
            exact absurd (pages _ (List.mem_filterMap.mpr ⟨_, inAll, rfl⟩) _
              (List.mem_filterMap.mpr ⟨_, refusedInAll, rfl⟩) (named.trans otherNamed.symm))
              different

/-- A derived surface has one operation for each name among those of contributed operations. -/
theorem perm_names_of_derive (derived : derive rules entity = .ok surface) :
    (surface.operations.map Operation.name).Perm
      ((contributedOperations rules entity).map Operation.name).dedup := by
  have keeps := (records_of_derive derived).operations
  rw [List.perm_ext_iff_of_nodup keeps.distinct (List.nodup_dedup _)]
  intro name
  rw [List.mem_dedup]
  refine ⟨fun mem => List.map_subset _ keeps.order.subset mem, fun mem => ?_⟩
  obtain ⟨operation, offered, rfl⟩ := List.mem_map.mp mem
  obtain ⟨contribution, among, same⟩ := List.mem_filterMap.mp offered
  obtain rfl := Contribution.operation?_eq_some_iff.mp same
  exact List.mem_map_of_mem ((mem_operations_iff derived).mpr (mem_contributed_iff.mp among))

end Surface

/-! ## Operations on contents -/

/-- What is done with an image or a print-out. -/
inductive ContentUse where
  | setImage
  | getImage
  | preview
  deriving DecidableEq

namespace ContentUse

/-- The kind of the properties that ask for an operation. -/
def tag : ContentUse → PropertyTag
  | setImage | getImage => .imageContent
  | preview => .printOut

/-- The rule that contributes the operations. -/
def rule : ContentUse → DerivationRule
  | setImage | getImage => .content
  | preview => .printOut

/-- The operation that is asked for by the properties with a suffix. -/
def operation (use : ContentUse) (entity : Entity) (suffix : String) : Operation :=
  match use with
  | setImage => entity.guardedOperation ("SetImage" ++ (suffix ++ entity.pascalName))
      [entity.objectArgument, fileArgument "image"] [entity.objectArgument] [.modify]
  | getImage => entity.guardedOperation ("GetImage" ++ (suffix ++ entity.pascalName))
      [entity.objectArgument] [fileArgument "image"] [.read]
  | preview => entity.guardedOperation ("Preview" ++ suffix ++ entity.pascalName)
      [entity.objectArgument] [fileArgument "document"] [.read]

variable {use : ContentUse} {entity : Entity}

theorem operation_inj {first second : String} :
    use.operation entity first = use.operation entity second ↔ first = second := by
  refine ⟨fun same => ?_, congrArg _⟩
  have names := congrArg (String.toList ∘ Operation.name) same
  cases use <;> simpa [operation, String.toList_inj] using names

/-- Every property of the kind has its operation contributed. -/
theorem contributed_operation {property : Property} (mem : property ∈ entity.propertiesOf use.tag) :
    Surface.Contributed DerivationRule.standard entity
      (.operation (use.operation entity property.suffix)) := by
  have present : entity.hasKind use.tag = true :=
    Entity.hasKind_iff_exists_mem_propertiesOf.mpr ⟨property, mem⟩
  refine ⟨use.rule, by cases use <;> decide, ?_, ?_⟩
  · cases use <;> simp_all [rule, tag, DerivationRule.appliesTo]
  · cases use
    case setImage | getImage =>
      refine ⟨_, rfl, List.mem_append_left _ (List.mem_flatMap.mpr ⟨property, mem, ?_⟩)⟩
      simp [operation]
    case preview => exact ⟨_, rfl, List.mem_map_of_mem mem⟩

/-- As many operations as there are different ones among those that are asked for. -/
theorem countP_operations {surface : Surface}
    (derived : Surface.derive DerivationRule.standard entity = .ok surface) {asked : List Operation}
    (contributed : ∀ operation ∈ asked, operation ∈ surface.operations) :
    surface.operations.countP (fun operation => operation ∈ asked) = asked.dedup.length := by
  have distinct : surface.operations.Nodup :=
    (Surface.records_of_derive derived).operations.distinct.of_map _
  rw [List.countP_eq_length_filter]
  apply List.Perm.length_eq
  rw [List.perm_ext_iff_of_nodup (distinct.filter _) (List.nodup_dedup asked)]
  intro operation
  simpa using contributed operation

end ContentUse

namespace Property

/-- A property with an identifier for a name has a suffix unless it has the default name. -/
theorem suffix_eq_empty_iff {property : Property}
    (valid : Name.identifierProblem? property.name = none) :
    property.suffix = "" ↔ property.name = property.tag.defaultName := by
  unfold suffix
  split
  · simp [*]
  · simp [*, Text.ne_empty_of_isCapitalized (Text.isCapitalized_pascalCase valid)]

/-- Two properties of one kind share a suffix if neither has the default name and Pascal case makes
their names the same. -/
theorem suffix_eq_iff {first second : Property} (same : first.tag = second.tag)
    (apart : first.name ≠ second.name) (valid : Name.identifierProblem? first.name = none)
    (validOther : Name.identifierProblem? second.name = none) :
    first.suffix = second.suffix ↔
      first.name ≠ first.tag.defaultName ∧ second.name ≠ second.tag.defaultName ∧
        Text.pascalCase first.name = Text.pascalCase second.name := by
  by_cases unnamed : first.name = first.tag.defaultName
  · have default : second.name ≠ second.tag.defaultName := fun other =>
      apart (unnamed.trans (same ▸ other.symm))
    rw [(suffix_eq_empty_iff valid).mpr unnamed, eq_comm, suffix_eq_empty_iff validOther]
    simp [unnamed, default]
  · by_cases otherUnnamed : second.name = second.tag.defaultName
    · rw [(suffix_eq_empty_iff validOther).mpr otherUnnamed, suffix_eq_empty_iff valid]
      simp [unnamed, otherUnnamed]
    · simp [suffix, unnamed, otherUnnamed]

end Property

namespace Schema.Reachable

variable {schema : Schema} {entity : Entity} {surface : Surface}

/-- Every active image and print-out has its operations in a derived surface. Two of one kind share
them exactly when neither has the default name and their names agree in Pascal case; so the surface
has as many of these operations as there are different ones, and one for each property exactly when
no two share one. -/
theorem content_operations (reached : schema.Reachable) (mem : entity ∈ schema.entities)
    (derived : Surface.derive DerivationRule.standard entity = .ok surface) (use : ContentUse) :
    let asking := entity.propertiesOf use.tag
    let asked := asking.map fun property => use.operation entity property.suffix
    (∀ operation ∈ asked, operation ∈ surface.operations) ∧
    (∀ first ∈ asking, ∀ second ∈ asking, first ≠ second →
      (use.operation entity first.suffix = use.operation entity second.suffix ↔
        first.name ≠ use.tag.defaultName ∧ second.name ≠ use.tag.defaultName ∧
          Text.pascalCase first.name = Text.pascalCase second.name)) ∧
    surface.operations.countP (fun operation => operation ∈ asked) = asked.dedup.length ∧
    (surface.operations.countP (fun operation => operation ∈ asked) = asking.length ↔
      asked.Nodup) := by
  intro asking asked
  have wellFormed := reached.wellFormed.entities entity mem
  have contributed : ∀ operation ∈ asked, operation ∈ surface.operations := by
    rw [List.forall_mem_map]
    exact fun property among =>
      (Surface.mem_operations_iff derived).mpr (ContentUse.contributed_operation among)
  have stored : ∀ property ∈ asking, property ∈ entity.properties ∧ property.tag = use.tag := by
    intro property among
    obtain ⟨active, tagged⟩ := List.mem_filter.mp among
    exact ⟨(Entity.mem_activeProperties_iff.mp active).1, beq_iff_eq.mp tagged⟩
  refine ⟨contributed, ?_, ContentUse.countP_operations derived contributed, ?_⟩
  · intro first inAsking second otherInAsking apart
    obtain ⟨inEntity, tagged⟩ := stored first inAsking
    obtain ⟨otherInEntity, otherTagged⟩ := stored second otherInAsking
    have named : first.name ≠ second.name := fun same =>
      apart (List.inj_on_of_nodup_map wellFormed.propertyNames inEntity otherInEntity same)
    rw [ContentUse.operation_inj, Property.suffix_eq_iff (tagged.trans otherTagged.symm) named
      (wellFormed.propertyIdentifiers first inEntity)
      (wellFormed.propertyIdentifiers second otherInEntity), tagged, otherTagged]
  · have size : asked.length = asking.length := List.length_map _
    rw [ContentUse.countP_operations derived contributed, ← size]
    constructor
    · intro same
      rw [← (List.dedup_sublist asked).eq_of_length same]
      exact List.nodup_dedup asked
    · exact fun distinct => congrArg List.length distinct.dedup

/-- Products with a photo and a sketch, and with a data sheet. -/
def depictedProducts : List Command :=
  Demo.Sales.products ++
  [Demo.attach Demo.Sales.product { name := "SKETCH", kind := .imageContent },
   Demo.attach Demo.Sales.product { name := "DATA_SHEET", kind := .printOut }, .finish]

/-- The photo and the sketch are set by an operation each. -/
theorem content_operations_products :
    let schema := (({ name := "sales" } : Schema).executeAll depictedProducts).1
    ∃ entity ∈ schema.entities, ∃ surface,
      Surface.derive DerivationRule.standard entity = .ok surface ∧
        (entity.propertiesOf .imageContent).map Property.name = ["PHOTO", "SKETCH"] ∧
        ContentUse.setImage.operation entity "Photo" ∈ surface.operations ∧
        ContentUse.setImage.operation entity "Sketch" ∈ surface.operations ∧
        ContentUse.setImage.operation entity "Photo" ≠
          ContentUse.setImage.operation entity "Sketch" := by
  intro schema
  have derivable : ∃ entity ∈ schema.entities,
      (Surface.derive DerivationRule.standard entity).toOption.isSome = true ∧
      ∃ photo ∈ entity.propertiesOf ContentUse.setImage.tag,
      ∃ sketch ∈ entity.propertiesOf ContentUse.setImage.tag, photo ≠ sketch ∧
        photo.suffix = "Photo" ∧ sketch.suffix = "Sketch" ∧
        Text.pascalCase photo.name ≠ Text.pascalCase sketch.name ∧
        (entity.propertiesOf .imageContent).map Property.name = ["PHOTO", "SKETCH"] := by
    decide +kernel
  obtain ⟨entity, mem, succeeds, photo, photoAsks, sketch, sketchAsks, apart, photoSuffix,
    sketchSuffix, namedApart, names⟩ := derivable
  obtain ⟨surface, derived⟩ := exists_eq_ok_of_isSome succeeds
  have reached : schema.Reachable := (Reachable.start "sales").executeAll depictedProducts
  obtain ⟨contributed, shared, -⟩ := reached.content_operations mem derived .setImage
  have differ := mt (shared photo photoAsks sketch sketchAsks apart).mp
    fun same => namedApart same.2.2
  rw [photoSuffix, sketchSuffix] at differ
  refine ⟨entity, mem, surface, derived, names, contributed _ ?_, contributed _ ?_, differ⟩
  · exact List.mem_map.mpr ⟨photo, photoAsks, by rw [photoSuffix]⟩
  · exact List.mem_map.mpr ⟨sketch, sketchAsks, by rw [sketchSuffix]⟩

/-- Products with two views from the front. -/
def viewedProducts : List Command :=
  Demo.Sales.products ++
  [Demo.attach Demo.Sales.product { name := "FRONT_VIEW", kind := .imageContent },
   Demo.attach Demo.Sales.product { name := "FRONT__VIEW", kind := .imageContent }, .finish]

/-- Three images are set by two operations and got by two. -/
theorem content_operations_shared_products :
    let schema := (({ name := "sales" } : Schema).executeAll viewedProducts).1
    schema.Reachable ∧ schema.phase = .finalized ∧
      (schema.validate ValidationRule.standard).isValid = true ∧
      ∃ entity ∈ schema.entities, ∃ surface,
        Surface.derive DerivationRule.standard entity = .ok surface ∧
        (entity.propertiesOf .imageContent).map Property.name =
          ["PHOTO", "FRONT_VIEW", "FRONT__VIEW"] ∧
        ∀ verb ∈ ["SetImage", "GetImage"], surface.operations.countP (fun operation =>
          verb.toList.isPrefixOf operation.name.toList) = 2 := by
  intro schema
  have found : schema.phase = .finalized ∧
      (schema.validate ValidationRule.standard).isValid = true ∧
      ∃ entity ∈ schema.entities, entity.finalized = true ∧
      (∀ rule ∈ DerivationRule.standard, rule.appliesTo entity = true →
        (rule.contributions entity).toOption.isSome = true) ∧
      (∀ first ∈ Surface.contributedOperations DerivationRule.standard entity,
        ∀ second ∈ Surface.contributedOperations DerivationRule.standard entity,
          first.IsConsistentWith second) ∧
      (∀ first ∈ Surface.contributedPages DerivationRule.standard entity,
        ∀ second ∈ Surface.contributedPages DerivationRule.standard entity,
          first.name = second.name → first = second) ∧
      (entity.propertiesOf .imageContent).map Property.name =
        ["PHOTO", "FRONT_VIEW", "FRONT__VIEW"] ∧
      ∀ verb ∈ ["SetImage", "GetImage"],
        ((Surface.contributedOperations DerivationRule.standard entity).map
          Operation.name).dedup.countP (fun name => verb.toList.isPrefixOf name.toList) = 2 := by
    decide +kernel
  obtain ⟨finalized, accepted, entity, mem, settled, succeed, operations, pages, images, counted⟩ :=
    found
  -- Deriving compares the identifiers of the operations that are asked for twice. To see that it
  -- succeeds, their forms are enough.
  obtain ⟨surface, derived⟩ := Surface.exists_eq_ok_of_form settled succeed operations pages
  refine ⟨(Reachable.start "sales").executeAll viewedProducts, finalized, accepted, entity, mem,
    surface, derived, images, fun verb among => ?_⟩
  rw [← counted verb among, ← (Surface.perm_names_of_derive derived).countP_eq, List.countP_map]
  rfl

end Schema.Reachable

end EntitySurface
