import EntitySurface.Demo
import EntitySurface.Proofs.Schema.Bindings
import EntitySurface.Proofs.Schema.CompanionNames
import EntitySurface.Proofs.Schema.Invariant
import EntitySurface.Proofs.Schema.LaterRules

/-!
# Attaching links

A link is attached with its companions or not at all. The companions of a link that passes its own
checks are new to the entities that they go to, so all that can keep them away are their names: a
name may be too long, and entities of different namespaces may bear one name.
-/

namespace EntitySurface

open Composer

theorem findSome?_congr {α β : Type} {first second : α → Option β} {list : List α}
    (same : ∀ item ∈ list, first item = second item) :
    list.findSome? first = list.findSome? second := by
  rw [← List.head?_filterMap, ← List.head?_filterMap, List.filterMap_congr same]

/-! ## Companions that are new to their targets -/

namespace Composer.Pending

variable {schema : Schema} {pending companion : Pending} {queue : List Pending} {entity : Entity}

theorem property?_receivedBy_of_ne {name : String} (apart : pending.property.name ≠ name) :
    (pending.receivedBy entity).property? name = entity.property? name := by
  unfold receivedBy
  split
  · simp [Entity.withProperty, Entity.property?, bound, apart]
  · rfl

theorem mem_properties_receivedBy {stored : Property}
    (mem : stored ∈ (pending.receivedBy entity).properties) :
    stored ∈ entity.properties ∨ entity.key = pending.target ∧ stored = pending.bound := by
  unfold receivedBy at mem
  split at mem
  · next arrives =>
    exact (List.mem_append.mp mem).imp_right fun new => ⟨arrives.1, List.mem_singleton.mp new⟩
  · exact Or.inl mem

/-- What a companion refers to is there, and its target has no property like it. -/
structure IsNew (schema : Schema) (companion : Pending) : Prop where
  target : (schema.entity? companion.target).isSome
  bindings : bindingFault? schema companion.target companion.property = none
  unlike : ∀ found, schema.entity? companion.target = some found →
    (found.property? companion.property.name).map Property.kind ≠ some companion.property.kind

/-- A property of the target goes by the name of the companion. -/
def isTaken (schema : Schema) (companion : Pending) : Bool :=
  (schema.entity? companion.target).any fun found =>
    (found.property? companion.property.name).isSome

/-- What is wrong with the name of a companion: it is taken, or else it is not valid. -/
def nameFault? (schema : Schema) (companion : Pending) : Option Fault :=
  if companion.isTaken schema then
    some (.duplicateName (.properties companion.target) companion.property.name)
  else
    (Name.identifierProblem? companion.property.name).map (.invalidName companion.property.name)

theorem IsNew.receivedBy {other : Pending} (new : companion.IsNew schema)
    (apart : other.property.name ≠ companion.property.name) :
    companion.IsNew (schema.mapEntities other.receivedBy) where
  target := by simpa using new.target
  bindings := new.bindings
  unlike := by
    intro found known
    rw [Schema.entity?_mapEntities] at known
    obtain ⟨before, stored, rfl⟩ := Option.map_eq_some_iff.mp known
    rw [property?_receivedBy_of_ne apart]
    exact new.unlike before stored

theorem nameFault?_receivedBy {other : Pending}
    (apart : other.property.name ≠ companion.property.name) :
    companion.nameFault? (schema.mapEntities other.receivedBy) = companion.nameFault? schema := by
  have taken : companion.isTaken (schema.mapEntities other.receivedBy) =
      companion.isTaken schema := by
    simp [isTaken, Option.any_map, property?_receivedBy_of_ne apart]
  rw [nameFault?, nameFault?, taken]

/-- A new companion fits exactly when nothing is wrong with its name. -/
theorem IsNew.fits_iff (new : companion.IsNew schema) (mem : companion ∈ pending.implied) :
    companion.Fits schema ↔ companion.nameFault? schema = none := by
  obtain ⟨found, known⟩ := Option.isSome_iff_exists.mp new.target
  have unlike := new.unlike found known
  simp only [fits_iff_of_mem_implied mem, known, Option.some.injEq, exists_eq_left', unlike,
    false_or, new.bindings, and_true, nameFault?, isTaken, Option.any_some]
  cases found.property? companion.property.name <;> simp

/-- Companions of one property that wait for their attachment: they are new to their targets, and
no two of them have one name. -/
structure AreNew (schema : Schema) (pending : Pending) (queue : List Pending) : Prop where
  implied : queue ⊆ pending.implied
  names : (queue.map fun companion => companion.property.name).Nodup
  new : ∀ companion ∈ queue, companion.IsNew schema

/-- When the first companion is received, the others are as new as before, and what is wrong with
their names stays the same. -/
theorem AreNew.uncons (areNew : AreNew schema pending (companion :: queue)) :
    companion ∈ pending.implied ∧ companion.IsNew schema ∧
      AreNew (schema.mapEntities companion.receivedBy) pending queue ∧
      queue.findSome? (nameFault? (schema.mapEntities companion.receivedBy)) =
        queue.findSome? (nameFault? schema) := by
  obtain ⟨implied, names, new⟩ := areNew
  obtain ⟨mem, restImplied⟩ := List.cons_subset.mp implied
  obtain ⟨fresh, restNames⟩ := List.nodup_cons.mp names
  obtain ⟨isNew, restNew⟩ := List.forall_mem_cons.mp new
  have apart : ∀ other ∈ queue, companion.property.name ≠ other.property.name :=
    fun other among same => fresh (List.mem_map.mpr ⟨other, among, same.symm⟩)
  refine ⟨mem, isNew, ⟨restImplied, restNames, ?_⟩, ?_⟩
  · exact fun other among => (restNew other among).receivedBy (apart other among)
  · exact findSome?_congr fun other among => nameFault?_receivedBy (apart other among)

/-- New companions fit one after another exactly when nothing is wrong with their names. -/
theorem AreNew.fitsAll_iff (areNew : AreNew schema pending queue) :
    schema.FitsAll queue ↔ queue.findSome? (nameFault? schema) = none := by
  induction queue generalizing schema with
  | nil => simp [Schema.FitsAll]
  | cons first rest ih =>
      obtain ⟨mem, isNew, restNew, same⟩ := areNew.uncons
      rw [Schema.FitsAll, isNew.fits_iff mem, ih restNew, same, List.findSome?_cons]
      cases first.nameFault? schema <;> simp

variable {steps : Nat} {fault : Fault} {after : Schema}

theorem IsNew.nameFault?_of_process (new : companion.IsNew schema)
    (mem : companion ∈ pending.implied)
    (failed : process companion schema = .error fault after) :
    companion.nameFault? schema = some fault := by
  obtain ⟨found, known⟩ := Option.isSome_iff_exists.mp new.target
  have isCompanion : companion.isCompanion = true := by
    obtain ⟨given, -, rfl⟩ := List.mem_map.mp mem
    rfl
  rw [process, bind_of_ok (requireTarget_eq_ok_iff.mpr ⟨known, rfl⟩), isCompanion] at failed
  cases named : found.property? companion.property.name with
  | some existing =>
      have other : (existing.kind == companion.property.kind) = false := by
        simpa [named] using new.unlike found known
      simp only [named, other, Bool.false_eq_true, if_false] at failed
      cases failed
      simp [nameFault?, isTaken, known, named]
  | none =>
      simp only [named] at failed
      cases valid : Name.identifierProblem? companion.property.name with
      | some problem =>
          have refused : requireIdentifier companion.property.name schema =
              .error (.invalidName companion.property.name problem) schema :=
            check_of_fault (by rw [valid]; rfl)
          rw [store, bind_of_error refused] at failed
          cases failed
          simp [nameFault?, isTaken, known, named, valid]
      | none =>
          have takes := (takes_iff_of_mem_implied mem).mpr ⟨named, valid, new.bindings⟩
          have stored : store companion schema = .ok companion.implied _ :=
            store_eq_ok_iff.mpr ⟨rfl, found, known, takes, rfl⟩
          rw [stored] at failed
          contradiction

/-- If new companions are not worked off, the fault is that of the first one with a wrong name. -/
theorem AreNew.findSome?_of_drain (wellFormed : schema.WellFormed)
    (areNew : AreNew schema pending queue) (room : queue.length ≤ steps)
    (failed : drain steps queue schema = .error fault after) :
    queue.findSome? (nameFault? schema) = some fault := by
  induction queue generalizing schema steps with
  | nil => cases steps <;> contradiction
  | cons first rest ih =>
      obtain ⟨mem, isNew, restNew, same⟩ := areNew.uncons
      cases steps with
      | zero => contradiction
      | succ steps =>
          rw [drain] at failed
          rw [List.findSome?_cons]
          cases outcome : process first schema with
          | error cause middle =>
              rw [bind_of_error outcome] at failed
              cases failed
              rw [isNew.nameFault?_of_process mem outcome]
          | ok more middle =>
              obtain ⟨rfl, fits, rfl⟩ := (process_last_eq_ok_iff wellFormed
                (last_of_implied first mem)).mp outcome
              rw [bind_of_ok outcome, List.append_nil] at failed
              rw [(isNew.fits_iff mem).mp fits, ← same]
              exact ih (fits.wellFormed wellFormed) restNew (Nat.le_of_succ_le_succ room) failed

end Composer.Pending

/-- Once the property itself fits, only the cascade of its companions can fail. -/
theorem Schema.execute_property_fault {schema : Schema} {key : EntityKey} {property : Property}
    {visibility : Visibility} {fault : Fault} (wellFormed : schema.WellFormed)
    (composing : schema.phase = .composing)
    (fits : (Pending.requested key property visibility).Fits schema)
    (failed : (schema.execute (.property key property visibility)).2 = some fault) :
    (schema.execute (.property key property visibility)).1 = schema ∧
      ∃ last, drain 1023 (Pending.requested key property visibility).implied
        (schema.mapEntities (Pending.requested key property visibility).receivedBy) =
          .error fault last := by
  obtain ⟨found, known, -⟩ := id fits
  have stored := (process_requested_eq_ok_iff wellFormed).mpr ⟨rfl, fits, rfl⟩
  unfold execute at failed ⊢
  cases outcome : Command.step (.property key property visibility) schema with
  | ok done after =>
      rw [outcome] at failed
      contradiction
  | error cause after =>
      rw [outcome] at failed
      obtain rfl := Option.some.inj failed
      refine ⟨Command.allOrNothing wellFormed rfl cause after outcome, ?_⟩
      have attached : attach key property visibility schema = .error cause after := outcome
      have required : requireEntity key schema = .ok found schema :=
        requireEntity_eq_ok_iff.mpr ⟨known, rfl⟩
      rw [attach, bind_of_ok (ensureComposing_of_composing _ composing), bind_of_ok required,
        restoring, maxCascadeSteps, drain, ← Pending.requested, bind_of_ok stored,
        List.nil_append] at attached
      split at attached
      · contradiction
      · next failure =>
        cases attached
        exact ⟨_, failure⟩

/-! ## Links that pass their own checks -/

/-- What is wrong with the name of a companion: it is taken, by a property of the target or, when
the link leads back to its own entity, by the link; or else it is too long. -/
def Schema.companionFault? (schema : Schema) (owner : EntityKey) (link : String)
    (companion : Companion) : Option Fault :=
  if (companion.target = owner ∧ companion.property.name = link) ∨
      ∃ target ∈ schema.entities, target.key = companion.target ∧
        ∃ stored ∈ target.properties, stored.name = companion.property.name then
    some (.duplicateName (.properties companion.target) companion.property.name)
  else if Name.maxLength < companion.property.name.utf8ByteSize then
    some (.invalidName companion.property.name .tooLong)
  else none

theorem Schema.companionFault?_eq_none_iff {schema : Schema} {owner : EntityKey} {link : String}
    {companion : Companion} : schema.companionFault? owner link companion = none ↔
      companion.property.name.utf8ByteSize ≤ Name.maxLength ∧
        (companion.target = owner → companion.property.name ≠ link) ∧
        ∀ target ∈ schema.entities, target.key = companion.target →
          ∀ stored ∈ target.properties, stored.name ≠ companion.property.name := by
  unfold companionFault?
  split
  · next taken =>
    simp only [reduceCtorEq, false_iff, not_and]
    intro _ apart free
    rcases taken with ⟨back, same⟩ | ⟨target, mem, key, stored, storedMem, same⟩
    · exact apart back same
    · exact free target mem key stored storedMem same
  · next free =>
    push Not at free
    simp [and_iff_left free]

/-- The checks of a link on an entity, without those of its companions: the link belongs to no
entity yet, its name is valid and unused, its rules are accepted, what it is bound to exists, its
columns do not clash, and there is no sub-object conflict. -/
structure Entity.PassesOwnChecks (schema : Schema) (entity : Entity) (link : Property)
    (visibility : Visibility) : Prop where
  linked : link.tag = .linkedToParent ∨ link.tag = .linkObject ∨ link.tag = .autolinkObject
  unowned : link.owner = none
  identifier : Name.identifierProblem? link.name = none
  unused : ∀ stored ∈ entity.properties, stored.name ≠ link.name
  rules : rulesFault? entity.key link = none
  bindings : ∀ binding ∈ link.kind.bindings, schema.resolves binding.target = true
  columns : ∀ element ∈ link.kind.elements entity.key link.name,
    entity.columnClashes element.name = false
  parentLinks : entity.checkParentLink { link with owner := some entity.key, visibility } = .ok ()

namespace Entity.PassesOwnChecks

variable {schema : Schema} {entity : Entity} {link : Property} {visibility : Visibility}

theorem iff_checks : entity.PassesOwnChecks schema link visibility ↔
    (link.tag = .linkedToParent ∨ link.tag = .linkObject ∨ link.tag = .autolinkObject) ∧
      link.owner = none ∧ Name.identifierProblem? link.name = none ∧
      (∀ stored ∈ entity.properties, stored.name ≠ link.name) ∧
      rulesFault? entity.key link = none ∧
      (∀ binding ∈ link.kind.bindings, schema.resolves binding.target = true) ∧
      (∀ element ∈ link.kind.elements entity.key link.name,
        entity.columnClashes element.name = false) ∧
      (link.tag = .linkedToParent → ∀ other ∈ entity.properties, other.isSubObject = false) ∧
      (link.isSubObject = true → ∀ other ∈ entity.properties, other.tag ≠ .linkedToParent) := by
  constructor
  · rintro ⟨linked, unowned, identifier, unused, rules, bindings, columns, parentLinks⟩
    exact ⟨linked, unowned, identifier, unused, rules, bindings, columns,
      checkParentLink_eq_ok_iff.mp parentLinks⟩
  · rintro ⟨linked, unowned, identifier, unused, rules, bindings, columns, parentLinks⟩
    exact ⟨linked, unowned, identifier, unused, rules, bindings, columns,
      checkParentLink_eq_ok_iff.mpr parentLinks⟩

instance : Decidable (entity.PassesOwnChecks schema link visibility) :=
  decidable_of_iff _ iff_checks.symm

theorem takes (passes : entity.PassesOwnChecks schema link visibility) :
    entity.Takes schema (.requested entity.key link visibility) where
  identifier := passes.identifier
  rules := passes.rules
  bindings := bindingFault?_eq_none_iff.mpr fun _ => passes.bindings
  unowned := passes.unowned
  fresh := property?_eq_none_iff.mpr passes.unused
  columns := passes.columns
  parentLinks := passes.parentLinks
  widgets := by
    have unsearched : ∀ element ∈ link.kind.elements entity.key link.name,
        element.searchable = false := by
      have linked := passes.linked
      unfold Property.tag at linked
      generalize link.kind = kind at linked
      cases kind <;> simp_all [PropertyKind.tag, PropertyKind.elements]
    have hidden : (link.kind.elements entity.key link.name).filter StoredElement.searchable = [] :=
      List.filter_eq_nil_iff.mpr fun element mem => by simp [unsearched element mem]
    have bare : propertyWidgets (Pending.requested entity.key link visibility).bound = [] := by
      simp [propertyWidgets, Pending.bound, Pending.requested, Property.elements, hidden]
    simp [bare, Pure.pure, Except.pure]

variable (reached : schema.ReachableUnreserved) (mem : entity ∈ schema.entities)
  (passes : entity.PassesOwnChecks schema link visibility)
include reached mem passes

/-- A companion like those of the link would belong to a link that is there already. -/
theorem kind_ne_of_mem_companions {companion : Companion}
    (implied : companion ∈ link.kind.companions entity.key link.name) {target : Entity}
    (targetMem : target ∈ schema.entities) {stored : Property}
    (storedMem : stored ∈ target.properties) : stored.kind ≠ companion.property.kind := by
  intro alike
  have wellFormed := reached.byLinks.reachable.wellFormed
  have known := wellFormed.entity?_eq_some_iff.mpr ⟨mem, rfl⟩
  have tagged : stored.kind.tag.isCompanion = true := by
    rw [alike]
    exact PropertyKind.isCompanion_of_mem_companions implied
  obtain ⟨source, sourceMem, other, otherMem, belongs, -⟩ :=
    reached.byLinks.exists_link targetMem storedMem tagged
  have toOther := belongs.pointsTo
  have toLink : stored.kind.PointsTo entity.key link :=
    alike ▸ PropertyKind.pointsTo_of_mem_companions implied
  obtain rfl := wellFormed.eq_of_key_eq sourceMem mem (toOther.holder_eq toLink)
  -- With the link stored, the entity would have two properties that the companion points to.
  let bound : Property := { link with owner := some source.key, visibility }
  have fits : (Pending.requested source.key link visibility).Fits schema :=
    Schema.fits_requested_iff.mpr ⟨source, known, passes.takes⟩
  have grown : source.withProperty bound ∈
      (schema.mapEntities (Pending.requested source.key link visibility).receivedBy).entities := by
    have received := receivedBy_of_takes wellFormed known passes.takes
    exact received ▸ List.mem_map_of_mem sourceMem
  have sound := (fits.wellFormed wellFormed).entities _ grown
  have equal : other = bound := sound.eq_of_pointsTo
    (List.mem_append_left _ otherMem) (List.mem_append_right _ List.mem_cons_self) toOther toLink
  have named : other.name = bound.name := congrArg Property.name equal
  exact passes.unused other otherMem named

/-- Once the link is stored, its companions are new to their targets. -/
theorem isNew {companion : Pending}
    (implied : companion ∈ (Pending.requested entity.key link visibility).implied) :
    companion.IsNew
      (schema.mapEntities (Pending.requested entity.key link visibility).receivedBy) := by
  have wellFormed := reached.byLinks.reachable.wellFormed
  obtain ⟨given, inCompanions, rfl⟩ := List.mem_map.mp implied
  have inCompanions : given ∈ link.kind.companions entity.key link.name := inCompanions
  constructor
  · obtain ⟨binding, bound, target⟩ := PropertyKind.target_mem_bindings inCompanions
    have resolves := passes.bindings binding bound
    rw [target, wellFormed.resolves_entity_iff] at resolves
    obtain ⟨found, foundMem, key⟩ := resolves
    simp [wellFormed.entity?_eq_some_iff.mpr ⟨foundMem, key⟩]
  · rw [bindingFault?_eq_none_iff]
    intro _ binding bound
    show schema.resolves binding.target = true
    rcases PropertyKind.bindings_of_mem_companions inCompanions binding bound with
      back | ⟨other, inLink, same⟩
    · rw [back, wellFormed.resolves_entity_iff]
      exact ⟨entity, mem, rfl⟩
    · rw [← same]
      exact passes.bindings other inLink
  · intro found known alike
    rw [Schema.entity?_mapEntities] at known
    obtain ⟨target, stored, rfl⟩ := Option.map_eq_some_iff.mp known
    obtain ⟨existing, named, kind⟩ := Option.map_eq_some_iff.mp alike
    have inTarget := (mem_of_property?_eq_some named).1
    rcases Pending.mem_properties_receivedBy inTarget with old | ⟨-, rfl⟩
    · exact passes.kind_ne_of_mem_companions reached mem inCompanions
        (wellFormed.entity?_eq_some_iff.mp stored).1 old kind
    · exact PropertyKind.companions_ne_kind inCompanions kind

/-- With the link stored, the name of a companion is taken when a property of its target goes by it
or, if the link leads back to its own entity, the link. -/
theorem isTaken_iff {companion : Companion} :
    Pending.isTaken (schema.mapEntities (Pending.requested entity.key link visibility).receivedBy)
        { target := companion.target, property := companion.property, visibility,
          isCompanion := true } = true ↔
      (companion.target = entity.key ∧ companion.property.name = link.name) ∨
        ∃ target ∈ schema.entities, target.key = companion.target ∧
          ∃ stored ∈ target.properties, stored.name = companion.property.name := by
  have wellFormed := reached.byLinks.reachable.wellFormed
  have known := wellFormed.entity?_eq_some_iff.mpr ⟨mem, rfl⟩
  simp only [Pending.isTaken, Option.any_eq_true, Schema.entity?_mapEntities,
    Option.map_eq_some_iff, property?_isSome_iff]
  constructor
  · rintro ⟨_, ⟨target, found, rfl⟩, stored, storedMem, named⟩
    obtain ⟨targetMem, key⟩ := wellFormed.entity?_eq_some_iff.mp found
    rcases Pending.mem_properties_receivedBy storedMem with old | ⟨back, rfl⟩
    · exact Or.inr ⟨target, targetMem, key, stored, old, named⟩
    · exact Or.inl ⟨key.symm.trans back, named.symm⟩
  · rintro (⟨back, named⟩ | ⟨target, targetMem, key, stored, storedMem, named⟩)
    · have received := receivedBy_of_takes wellFormed known passes.takes
      refine ⟨_, ⟨entity, back ▸ known, rfl⟩, (Pending.requested entity.key link visibility).bound,
        ?_, named.symm⟩
      rw [received]
      exact List.mem_append_right _ List.mem_cons_self
    · refine ⟨_, ⟨target, wellFormed.entity?_eq_some_iff.mpr ⟨targetMem, key⟩, rfl⟩, stored, ?_,
        named⟩
      unfold Pending.receivedBy
      split
      · exact List.mem_append_left _ storedMem
      · exact storedMem

/-- With the link stored, what is wrong with the name of a companion can be told from the schema
before. -/
theorem nameFault?_eq {companion : Companion}
    (implied : companion ∈ link.kind.companions entity.key link.name) :
    Pending.nameFault?
        (schema.mapEntities (Pending.requested entity.key link visibility).receivedBy)
        { target := companion.target, property := companion.property, visibility,
          isCompanion := true } =
      schema.companionFault? entity.key link.name companion := by
  have named := (reached.byLinks.reachable.isNamed mem).identifier
  unfold Pending.nameFault? Schema.companionFault?
  simp only [passes.isTaken_iff reached mem,
    PropertyKind.identifierProblem?_of_mem_companions implied named passes.identifier]
  split
  · rfl
  · split <;> rfl

theorem areNew : Pending.AreNew
    (schema.mapEntities (Pending.requested entity.key link visibility).receivedBy)
    (Pending.requested entity.key link visibility)
    (Pending.requested entity.key link visibility).implied where
  implied := List.Subset.refl _
  names := by
    simp only [Pending.implied, List.map_map]
    exact PropertyKind.nodup_names_companions link.kind entity.key link.name
  new _ implied := passes.isNew reached mem implied

theorem findSome?_nameFault?_eq :
    (Pending.requested entity.key link visibility).implied.findSome? (Pending.nameFault?
        (schema.mapEntities (Pending.requested entity.key link visibility).receivedBy)) =
      (link.kind.companions entity.key link.name).findSome?
        (schema.companionFault? entity.key link.name) := by
  rw [Pending.implied, List.findSome?_map]
  exact findSome?_congr fun companion implied => passes.nameFault?_eq reached mem implied

/-- A property that has the name of one of the companions is the companion of another link. -/
theorem exists_other_link {companion : Companion}
    (implied : companion ∈ link.kind.companions entity.key link.name) {target : Entity}
    (targetMem : target ∈ schema.entities) {stored : Property}
    (storedMem : stored ∈ target.properties) (named : stored.name = companion.property.name) :
    ∃ source ∈ schema.entities, ∃ other ∈ source.properties,
      stored.IsCompanionOf target.key source.key other ∧
      (source.key, other.name) ≠ (entity.key, link.name) := by
  have wellFormed := reached.byLinks.reachable.wellFormed
  have reserved : Name.isReserved stored.name = true :=
    named ▸ PropertyKind.isReserved_of_mem_companions implied
  have held := Schema.mem_holdings_iff.mpr ⟨target, targetMem, stored, storedMem, rfl⟩
  have tagged := reached.reserves _ (Or.inl held) reserved
  obtain ⟨source, sourceMem, other, otherMem, belongs, -⟩ :=
    reached.byLinks.exists_link targetMem storedMem tagged
  refine ⟨source, sourceMem, other, otherMem, belongs, ?_⟩
  intro both
  obtain ⟨sameKey, sameName⟩ := Prod.mk.inj both
  obtain rfl := wellFormed.eq_of_key_eq sourceMem mem sameKey
  exact passes.unused other otherMem sameName

end Entity.PassesOwnChecks

namespace Schema.ReachableUnreserved

variable {schema : Schema} {entity : Entity} {link : Property} {visibility : Visibility}

/-- When nothing but cascades brings properties that are named like companions, a link that passes
its own checks is attached exactly when the names of its companions have at most 64 bytes and are
free: used neither by a property of the target nor, when the link leads back to its own entity, by
the link. Otherwise nothing changes, and the fault is about the first companion that has a wrong
name: a duplicate name if it is taken, an invalid name if it is only too long. Whoever has a taken
name is the companion of another link. -/
theorem attaches_link_iff (reached : schema.ReachableUnreserved)
    (composing : schema.phase = .composing) (mem : entity ∈ schema.entities)
    (passes : entity.PassesOwnChecks schema link visibility) :
    let outcome := schema.execute (.property entity.key link visibility)
    let companions := link.kind.companions entity.key link.name
    (outcome.2 = none ↔ ∀ companion ∈ companions,
      companion.property.name.utf8ByteSize ≤ Name.maxLength ∧
      (companion.target = entity.key → companion.property.name ≠ link.name) ∧
      ∀ target ∈ schema.entities, target.key = companion.target →
        ∀ stored ∈ target.properties, stored.name ≠ companion.property.name) ∧
    (∀ fault, outcome.2 = some fault → outcome.1 = schema ∧
      companions.findSome? (schema.companionFault? entity.key link.name) = some fault) ∧
    ∀ companion ∈ companions, ∀ target ∈ schema.entities, target.key = companion.target →
      ∀ stored ∈ target.properties, stored.name = companion.property.name →
        stored.kind ≠ companion.property.kind ∧
        ∃ source ∈ schema.entities, ∃ other ∈ source.properties,
          stored.IsCompanionOf target.key source.key other ∧
          (source.key, other.name) ≠ (entity.key, link.name) := by
  intro outcome companions
  have wellFormed := reached.byLinks.reachable.wellFormed
  have known := wellFormed.entity?_eq_some_iff.mpr ⟨mem, rfl⟩
  let requested := Pending.requested entity.key link visibility
  have fits : requested.Fits schema := fits_requested_iff.mpr ⟨entity, known, passes.takes⟩
  have areNew := passes.areNew reached mem
  have faults := passes.findSome?_nameFault?_eq reached mem
  refine ⟨?_, ?_, ?_⟩
  · rw [execute_property_fault_eq_none_iff wellFormed, and_iff_right composing, Pending.cascade,
      FitsAll, and_iff_right fits, areNew.fitsAll_iff, faults, List.findSome?_eq_none_iff]
    exact forall₂_congr fun companion _ => companionFault?_eq_none_iff
  · intro fault failed
    obtain ⟨unchanged, last, drained⟩ := execute_property_fault wellFormed composing fits failed
    have room := Nat.le_trans requested.length_implied_le (by decide : 2 ≤ 1023)
    refine ⟨unchanged, ?_⟩
    rw [← faults]
    exact areNew.findSome?_of_drain (fits.wellFormed wellFormed) room drained
  · intro companion implied target targetMem key stored storedMem named
    exact ⟨passes.kind_ne_of_mem_companions reached mem implied targetMem storedMem,
      passes.exists_other_link reached mem implied targetMem storedMem named⟩

/-- The link of an order line to its order. -/
def linkToOrder : Property :=
  { name := "ORDER", kind := .linkedToParent Demo.Sales.order }

/-- Orders and order lines that are not linked yet. -/
def separateLines : List Command :=
  Demo.identified Demo.Sales.order "Order" "A customer order" ++
  Demo.identified Demo.Sales.orderLine "Order Line" "One position of an order"

/-- A line passes its own checks, and its companion finds a free name at the order. -/
theorem attaches_link_iff_separateLines :
    let schema := (({ name := "sales" } : Schema).executeAll separateLines).1
    schema.ReachableUnreserved ∧ schema.phase = .composing ∧
      (∃ entity ∈ schema.entities, entity.key = Demo.Sales.orderLine ∧
        entity.PassesOwnChecks schema linkToOrder .active) ∧
      (schema.execute (.property Demo.Sales.orderLine linkToOrder .active)).2 = none := by
  intro schema
  have reached : schema.ReachableUnreserved :=
    (ReachableUnreserved.start "sales").executeAll (by decide)
  have found : schema.phase = .composing ∧
      ∃ entity ∈ schema.entities, entity.key = Demo.Sales.orderLine ∧
        entity.PassesOwnChecks schema linkToOrder .active := by
    decide +kernel
  obtain ⟨composing, checked⟩ := found
  obtain ⟨entity, mem, key, passes⟩ := id checked
  refine ⟨reached, composing, checked, ?_⟩
  rw [← key, (reached.attaches_link_iff composing mem passes).1, key]
  decide +kernel

/-- Lines of one name in two namespaces, of which one is linked to the order, and an entity with a
long name. -/
def linesOfOneName : List Command :=
  separateLines ++ [Demo.attach Demo.Sales.orderLine linkToOrder] ++
  Demo.identified ⟨"archive", "OrderLine"⟩ "Order Line" "One position of an archived order" ++
  Demo.identified ⟨"archive", "ScheduledDeliveryOfAnOrderLineUnderFrameworkContracts"⟩ "Delivery"
    "One delivery of an archived order"

/-- The other line and the delivery pass their own checks, but their companions are in the way: the
one is named like a companion that the order has, the other one has too long a name. -/
theorem link_refused_linesOfOneName :
    let schema := (({ name := "sales" } : Schema).executeAll linesOfOneName).1
    schema.ReachableUnreserved ∧ schema.phase = .composing ∧
      (∃ entity ∈ schema.entities, entity.key = ⟨"archive", "OrderLine"⟩ ∧
        entity.PassesOwnChecks schema linkToOrder .active ∧
        (schema.execute (.property entity.key linkToOrder .active)).2 =
          some (.duplicateName (.properties Demo.Sales.order) "CHILDREN_ORDERLINE_ORDER")) ∧
      ∃ entity ∈ schema.entities, entity.PassesOwnChecks schema linkToOrder .active ∧
        (schema.execute (.property entity.key linkToOrder .active)).2 = some (.invalidName
          "CHILDREN_SCHEDULEDDELIVERYOFANORDERLINEUNDERFRAMEWORKCONTRACTS_ORDER" .tooLong) := by
  intro schema
  have reached : schema.ReachableUnreserved :=
    (ReachableUnreserved.start "sales").executeAll (by decide)
  exact ⟨reached, by decide +kernel⟩

end Schema.ReachableUnreserved

end EntitySurface
