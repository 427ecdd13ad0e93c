import EntitySurface.Proofs.Schema.Closure
import EntitySurface.Proofs.Schema.Invariant
import EntitySurface.Proofs.Entity.Active

/-!
# Which schemas are accepted

The standard rules are exact. What they demand of a finalized schema is stated here without the
rules, in terms of what the schema stores: its names, and what its active links and schedules need
of the entities that they lead to. A finalized schema is accepted if and only if it meets these
demands.
-/

namespace EntitySurface

namespace Schema

/-- The entity of the key has an active link to the parent. -/
def HasParentLink (schema : Schema) (key parent : EntityKey) : Prop :=
  ∃ entity ∈ schema.entities, entity.key = key ∧
    ∃ link ∈ entity.activeProperties, link.kind = .linkedToParent parent

/-- The entity of the key has an active lifecycle whose registered category has all the states. -/
def HasStates (schema : Schema) (key : EntityKey) (states : List String) : Prop :=
  ∃ entity ∈ schema.entities, entity.key = key ∧
    ∃ lifecycle ∈ entity.activeProperties, ∃ category registered,
      lifecycle.kind = .lifecycle category ∧
      schema.catalog.category? category = some registered ∧
      ∀ state ∈ states, ∃ value ∈ registered.values, value.code = state

/-- What the rules demand of a schema as a whole. -/
structure Consistent (schema : Schema) : Prop where
  /-- Every name starts with an uppercase letter. -/
  capitalized : ∀ entity ∈ schema.entities, ∃ first rest,
    entity.key.name.toList = first :: rest ∧ first.isUpper = true
  /-- Names of one namespace differ in more than case. -/
  distinct : schema.entities.Pairwise fun first second => first.key.space = second.key.space →
    Text.equalIgnoringAsciiCase first.key.name second.key.name = false
  /-- No entity is an active link of both kinds. -/
  exclusive : ∀ entity ∈ schema.entities,
    ¬((∃ link ∈ entity.activeProperties, link.tag = .linkObject) ∧
      ∃ link ∈ entity.activeProperties, link.tag = .autolinkObject)
  /-- The dependency of an active schedule joins scheduled objects to each other. -/
  scheduled : ∀ entity ∈ schema.entities, ∀ schedule ∈ entity.activeProperties, ∀ dependency,
    schedule.kind = .schedule dependency →
      ∃ joining ∈ schema.entities, joining.key = dependency ∧
        ∃ link ∈ joining.activeProperties, link.kind = .linkObject entity.key entity.key
  /-- The entities at the ends of an active link are such that its rules can be kept. -/
  constrained : ∀ entity ∈ schema.entities, ∀ link ∈ entity.activeProperties, ∀ left right,
    link.kind = .linkObject left right → ∀ rule ∈ link.rules,
      (∀ parent, rule = .sameParent parent →
        schema.HasParentLink left parent ∧ schema.HasParentLink right parent) ∧
      (∀ states, rule = .leftStateRestriction states → schema.HasStates left states) ∧
      ∀ states, rule = .rightStateRestriction states → schema.HasStates right states

variable {schema : Schema}

/-! ## Rule by rule -/

/-- The tag of a kind need not be asked for beside the kind. -/
theorem mem_propertiesOf_and_kind_iff {entity : Entity} {property : Property}
    (kind : PropertyKind) :
    property ∈ entity.propertiesOf kind.tag ∧ property.kind = kind ↔
      property ∈ entity.activeProperties ∧ property.kind = kind :=
  and_congr_left fun same => by simp [Entity.propertiesOf, Property.tag, same]

theorem exists_cons_iff_head?_any {name : String} :
    (∃ first rest, name.toList = first :: rest ∧ first.isUpper = true) ↔
      name.toList.head?.any Char.isUpper = true := by
  cases name.toList <;> simp

namespace WellFormed

variable (wellFormed : schema.WellFormed)
include wellFormed

/-- The entity of a key passes a test. -/
theorem any_entity?_iff {key : EntityKey} {test : Entity → Bool} :
    (schema.entity? key).any test = true ↔
      ∃ entity ∈ schema.entities, entity.key = key ∧ test entity = true := by
  simp only [Option.any_eq_true, wellFormed.entity?_eq_some_iff, and_assoc]

theorem hasParent_iff {key parent : EntityKey} :
    hasParent (schema.entity? key) parent = true ↔ schema.HasParentLink key parent := by
  rw [hasParent, wellFormed.any_entity?_iff]
  refine exists_congr fun entity => and_congr_right fun mem => and_congr_right fun keyed => ?_
  simp only [List.any_eq_true, beq_iff_eq]
  exact exists_congr fun link => mem_propertiesOf_and_kind_iff (.linkedToParent parent)

/-- An entity has one lifecycle at most, so that the first one is the one. -/
theorem firstOf?_lifecycle_iff {entity : Entity} (mem : entity ∈ schema.entities)
    {lifecycle : Property} {category : ChoiceKey} :
    (entity.firstOf? .lifecycle = some lifecycle ∧ lifecycle.kind = .lifecycle category) ↔
      (lifecycle ∈ entity.activeProperties ∧ lifecycle.kind = .lifecycle category) := by
  refine and_congr_left fun kind => ⟨fun found => (Entity.mem_of_firstOf?_eq_some found).1, ?_⟩
  intro active
  have tagged : lifecycle.tag = .lifecycle := by rw [Property.tag, kind]; rfl
  have present : entity.hasKind .lifecycle = true := by
    simpa [Entity.hasKind] using ⟨lifecycle, active, tagged⟩
  obtain ⟨first, firstActive, found, firstTag⟩ := Entity.exists_firstOf? present
  have stored := fun {property} (active : property ∈ entity.activeProperties) =>
    (Entity.mem_activeProperties_iff.mp active).1
  rw [found, (wellFormed.entities entity mem).eq_of_lifecycle (stored firstActive) (stored active)
    firstTag tagged]

theorem stateProblem?_eq_none_iff {key : EntityKey} {states : List String} :
    schema.stateProblem? (schema.entity? key) states = none ↔ schema.HasStates key states := by
  rw [Schema.stateProblem?_eq_none_iff]
  constructor
  · rintro ⟨linked, lifecycle, category, registered, known, first, kind, found, listed⟩
    obtain ⟨mem, keyed⟩ := wellFormed.entity?_eq_some_iff.mp known
    obtain ⟨active, -⟩ := (wellFormed.firstOf?_lifecycle_iff mem).mp ⟨first, kind⟩
    exact ⟨linked, mem, keyed, lifecycle, active, category, registered, kind, found,
      fun state inStates => by simpa [ChoiceCategory.contains] using listed state inStates⟩
  · rintro ⟨linked, mem, keyed, lifecycle, active, category, registered, kind, found, listed⟩
    obtain ⟨first, -⟩ := (wellFormed.firstOf?_lifecycle_iff mem).mpr ⟨active, kind⟩
    exact ⟨linked, lifecycle, category, registered,
      wellFormed.entity?_eq_some_iff.mpr ⟨mem, keyed⟩, first, kind, found,
      fun state inStates => by simpa [ChoiceCategory.contains] using listed state inStates⟩

theorem isValid_checkScheduleDependencies_iff :
    schema.checkScheduleDependencies.isValid = true ↔
      ∀ entity ∈ schema.entities, ∀ schedule ∈ entity.activeProperties, ∀ dependency,
        schedule.kind = .schedule dependency →
          ∃ joining ∈ schema.entities, joining.key = dependency ∧
            ∃ link ∈ joining.activeProperties, link.kind = .linkObject entity.key entity.key := by
  rw [Schema.isValid_checkScheduleDependencies_iff]
  have joins_iff : ∀ key dependency : EntityKey,
      (schema.entity? dependency).any (fun link => linksToItself link key) = true ↔
        ∃ joining ∈ schema.entities, joining.key = dependency ∧
          ∃ link ∈ joining.activeProperties, link.kind = .linkObject key key := by
    intro key dependency
    rw [wellFormed.any_entity?_iff]
    refine exists_congr fun joining => and_congr_right fun _ => and_congr_right fun _ => ?_
    simp only [linksToItself, List.any_eq_true, beq_iff_eq]
    exact exists_congr fun link => mem_propertiesOf_and_kind_iff (.linkObject key key)
  simp only [joins_iff]
  refine forall₂_congr fun entity mem => ⟨fun sound schedule active dependency kind => ?_,
    fun sound schedule mem => sound schedule (List.mem_filter.mp mem).1⟩
  exact sound schedule ((mem_propertiesOf_and_kind_iff _).mpr ⟨active, kind⟩).1 dependency kind

theorem isValid_checkLinkRules_iff :
    schema.checkLinkRules.isValid = true ↔
      ∀ entity ∈ schema.entities, ∀ link ∈ entity.activeProperties, ∀ left right,
        link.kind = .linkObject left right → ∀ rule ∈ link.rules,
          (∀ parent, rule = .sameParent parent →
            schema.HasParentLink left parent ∧ schema.HasParentLink right parent) ∧
          (∀ states, rule = .leftStateRestriction states → schema.HasStates left states) ∧
          ∀ states, rule = .rightStateRestriction states → schema.HasStates right states := by
  rw [Schema.isValid_checkLinkRules_iff]
  simp only [linkRuleFindings_eq_nil_iff, wellFormed.hasParent_iff,
    wellFormed.stateProblem?_eq_none_iff]
  refine forall₂_congr fun entity mem => ⟨fun sound link active left right kind => ?_,
    fun sound link mem => sound link (List.mem_filter.mp mem).1⟩
  exact sound link ((mem_propertiesOf_and_kind_iff _).mpr ⟨active, kind⟩).1 left right kind

end WellFormed

theorem isValid_checkLinkExclusivity_iff_active :
    schema.checkLinkExclusivity.isValid = true ↔
      ∀ entity ∈ schema.entities,
        ¬((∃ link ∈ entity.activeProperties, link.tag = .linkObject) ∧
          ∃ link ∈ entity.activeProperties, link.tag = .autolinkObject) := by
  rw [isValid_checkLinkExclusivity_iff]
  simp [Entity.isLink, Entity.isAutolink, Entity.hasKind]

namespace Reachable

variable (reached : schema.Reachable)
include reached

/-- Names that composition accepts are ASCII, so the two ways of ignoring case agree. -/
theorem isValid_checkEntityNames_iff :
    schema.checkEntityNames.isValid = true ↔
      (∀ entity ∈ schema.entities, ∃ first rest,
        entity.key.name.toList = first :: rest ∧ first.isUpper = true) ∧
      schema.entities.Pairwise fun first second => first.key.space = second.key.space →
        Text.equalIgnoringAsciiCase first.key.name second.key.name = false := by
  have identifier := fun {entity : Entity} (mem : entity ∈ schema.entities) =>
    (reached.isNamed mem).identifier
  rw [Schema.isValid_checkEntityNames_iff]
  refine and_congr (forall₂_congr fun entity mem => ?_) ?_
  · rw [isPascalCase, Name.identifierProblem?_eq_none_iff.mp (identifier mem),
      Bool.true_and, exists_cons_iff_head?_any]
  · rw [List.Nodup, List.pairwise_map]
    refine List.Pairwise.iff_of_mem fun {first second} firstMem secondMem => ?_
    have ascii := fun {entity : Entity} (mem : entity ∈ schema.entities) =>
      Name.isAscii_of_identifierProblem?_eq_none (identifier mem)
    rw [foldedName, foldedName, Ne, Prod.mk.injEq, not_and,
      Text.lowercase_eq_iff_of_ascii (ascii firstMem) (ascii secondMem), Bool.not_eq_true]

/-- The standard rules are exact: they report no error about a finalized schema if and only if the
schema is consistent. -/
theorem accepted_iff (finalized : schema.phase = .finalized) :
    (schema.validate ValidationRule.standard).errors = [] ↔ schema.Consistent := by
  have wellFormed := reached.wellFormed
  rw [← Report.isValid_iff, isValid_validate_iff]
  constructor
  · intro sound
    have names := reached.isValid_checkEntityNames_iff.mp (sound .entityNames (by decide))
    exact
      { capitalized := names.1
        distinct := names.2
        exclusive := isValid_checkLinkExclusivity_iff_active.mp
          (sound .linkExclusivity (by decide))
        scheduled := wellFormed.isValid_checkScheduleDependencies_iff.mp
          (sound .scheduleDependency (by decide))
        constrained := wellFormed.isValid_checkLinkRules_iff.mp (sound .linkRules (by decide)) }
  · intro consistent rule _
    cases rule with
    | entityNames =>
        exact reached.isValid_checkEntityNames_iff.mpr ⟨consistent.capitalized, consistent.distinct⟩
    | genericBindings => exact reached.isValid_checkBindings finalized
    | linkExclusivity => exact isValid_checkLinkExclusivity_iff_active.mpr consistent.exclusive
    | scheduleDependency =>
        exact wellFormed.isValid_checkScheduleDependencies_iff.mpr consistent.scheduled
    | linkRules => exact wellFormed.isValid_checkLinkRules_iff.mpr consistent.constrained
    | loaderAliases => exact reached.isValid_checkLoaderAliases finalized
    | surface => rfl

end Reachable

/-- Links between orders in one state and products. -/
def ordersInState (state : String) : List Command :=
  Demo.Sales.categories ++ Demo.Sales.customers ++ Demo.Sales.products ++ Demo.Sales.orders ++
  Demo.identified Demo.Sales.orderProductLink "Ordered Product" "Product of an order" ++
  [Demo.attach Demo.Sales.orderProductLink
     { Property.ofKind (.linkObject Demo.Sales.order Demo.Sales.product) with
       rules := [.leftStateRestriction [state]] },
   .finish]

/-- Orders may be open, and they may not be lost. -/
theorem Reachable.accepted_iff_ordersInState :
    let allowed := (({ name := "sales" } : Schema).executeAll (ordersInState "OPEN")).1
    let unknown := (({ name := "sales" } : Schema).executeAll (ordersInState "LOST")).1
    (allowed.phase = .finalized ∧ allowed.Consistent) ∧
      (unknown.phase = .finalized ∧ ¬unknown.Consistent) := by
  intro allowed unknown
  have allowedFinalized : allowed.phase = .finalized := by decide +kernel
  have unknownFinalized : unknown.phase = .finalized := by decide +kernel
  have accepted : (allowed.validate ValidationRule.standard).errors = [] := by decide +kernel
  have refused : (unknown.validate ValidationRule.standard).errors ≠ [] := by decide +kernel
  have start := Reachable.start "sales"
  refine ⟨⟨allowedFinalized, ?_⟩, unknownFinalized, fun consistent => refused ?_⟩
  · exact ((start.executeAll (ordersInState "OPEN")).accepted_iff allowedFinalized).mp accepted
  · exact ((start.executeAll (ordersInState "LOST")).accepted_iff unknownFinalized).mpr consistent

end Schema

end EntitySurface
