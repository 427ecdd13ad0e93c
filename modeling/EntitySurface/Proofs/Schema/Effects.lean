import EntitySurface.Proofs.Schema.Cascade

/-!
# Effects of attachments

What a successful attachment does to each entity of a schema, written out: the entities named by the
property and its companions gain these and their widgets, unless a companion is there already, and
nothing else changes. No attachment processes more than three properties.
-/

namespace EntitySurface

open Composer

/-! ## What one entity receives -/

namespace Composer.Pending

/-- The attachment is for the entity, which has no property of that name and kind. -/
def arrivesAt (pending : Pending) (entity : Entity) : Bool :=
  pending.target == entity.key && entity.properties.all fun existing =>
    existing.name != pending.property.name || existing.kind != pending.property.kind

/-- The attachments are of different names or kinds. -/
def Apart (first second : Pending) : Prop :=
  first.property.name ≠ second.property.name ∨ first.property.kind ≠ second.property.kind

end Composer.Pending

/-- The entity with the attachments of a queue that arrive at it, and with their widgets. -/
def Entity.receive (entity : Entity) (queue : List Pending) : Entity :=
  let arriving := (queue.filter fun pending => pending.arrivesAt entity).map Pending.bound
  { entity with
    properties := entity.properties ++ arriving
    searchWidgets := entity.searchWidgets ++ arriving.flatMap propertyWidgets }

variable {schema : Schema} {entity : Entity} {pending other : Pending} {queue : List Pending}

/-- An attachment that is received does not keep others from arriving. -/
theorem Composer.Pending.Apart.arrivesAt_withProperty (apart : pending.Apart other) :
    other.arrivesAt (entity.withProperty pending.bound) = other.arrivesAt entity := by
  have different : (pending.bound.name != other.property.name ||
      pending.bound.kind != other.property.kind) = true := by
    simpa [Apart, bound] using apart
  simp [arrivesAt, Entity.withProperty, different]

/-- A property that the entity takes is new to it. -/
theorem Entity.Takes.arrivesAt (takes : entity.Takes schema pending)
    (keyed : entity.key = pending.target) : pending.arrivesAt entity = true := by
  simp only [Pending.arrivesAt, keyed, beq_self_eq_true, Bool.true_and, List.all_eq_true]
  intro existing stored
  simp [Entity.property?_eq_none_iff.mp takes.fresh existing stored]

/-- An attachment that fits is received exactly when it arrives. -/
theorem Composer.Pending.Fits.receivedBy_eq (wellFormed : schema.WellFormed)
    (fits : pending.Fits schema) (mem : entity ∈ schema.entities) :
    pending.receivedBy entity =
      if pending.arrivesAt entity then entity.withProperty pending.bound else entity := by
  obtain ⟨found, known, outcome⟩ := fits
  by_cases keyed : entity.key = pending.target
  · obtain ⟨foundMem, foundKey⟩ := wellFormed.entity?_eq_some_iff.mp known
    obtain rfl := wellFormed.eq_of_key_eq mem foundMem (keyed.trans foundKey.symm)
    rcases outcome with present | takes
    · obtain ⟨-, existing, named, kind⟩ := id present
      obtain ⟨stored, name⟩ := Entity.mem_of_property?_eq_some named
      have absent : pending.arrivesAt entity = false := by
        simp only [arrivesAt, Bool.and_eq_false_iff, List.all_eq_false]
        exact Or.inr ⟨existing, stored, by simp [name, kind]⟩
      rw [present.receivedBy_eq, absent, if_neg Bool.false_ne_true]
    · rw [receivedBy_of_takes wellFormed known takes, if_pos (takes.arrivesAt keyed)]
  · have elsewhere : pending.arrivesAt entity = false := by
      simp [arrivesAt, Ne.symm keyed]
    rw [receivedBy, if_neg fun both => keyed both.1, elsewhere, if_neg Bool.false_ne_true]

/-- Receiving attachments one by one or all at once comes to the same. -/
theorem Entity.receive_receivedBy (wellFormed : schema.WellFormed) (fits : pending.Fits schema)
    (apart : ∀ other ∈ queue, pending.Apart other) (mem : entity ∈ schema.entities) :
    (pending.receivedBy entity).receive queue = entity.receive (pending :: queue) := by
  rw [fits.receivedBy_eq wellFormed mem]
  cases arrives : pending.arrivesAt entity with
  | false => simp [receive, arrives]
  | true =>
      have same : queue.filter (fun other => other.arrivesAt (entity.withProperty pending.bound)) =
          queue.filter fun other => other.arrivesAt entity :=
        List.filter_congr fun other mem => (apart other mem).arrivesAt_withProperty
      simp [receive, arrives, same]
      simp [withProperty]

/-- Attachments that fit are received by all entities at once. -/
theorem Schema.receiveAll_eq_mapEntities (wellFormed : schema.WellFormed)
    (fitsAll : schema.FitsAll queue) (apart : queue.Pairwise Pending.Apart) :
    schema.receiveAll queue = schema.mapEntities fun entity => entity.receive queue := by
  induction queue generalizing schema with
  | nil => simp [receiveAll, mapEntities, Entity.receive]
  | cons first rest ih =>
      obtain ⟨fits, others⟩ := fitsAll
      obtain ⟨firstApart, restApart⟩ := List.pairwise_cons.mp apart
      show (schema.mapEntities first.receivedBy).receiveAll rest = _
      rw [ih (fits.wellFormed wellFormed) others restApart, mapEntities_mapEntities]
      exact mapEntities_congr fun entity mem =>
        Entity.receive_receivedBy wellFormed fits firstApart mem

/-! ## What a cascade brings -/

theorem PropertyKind.companions_ne_kind {kind : PropertyKind} {owner : EntityKey} {name : String}
    {companion : Companion} (mem : companion ∈ kind.companions owner name) :
    kind ≠ companion.property.kind := by
  cases kind <;> simp only [companions, List.not_mem_nil, List.mem_cons, or_false] at mem
  all_goals rcases mem with rfl | rfl
  all_goals simp

/-- Companions store nothing. -/
theorem PropertyKind.elements_of_mem_companions {kind : PropertyKind} {owner : EntityKey}
    {name : String} {companion : Companion} (mem : companion ∈ kind.companions owner name)
    (other : EntityKey) (link : String) : companion.property.kind.elements other link = [] := by
  cases kind <;> simp only [companions, List.not_mem_nil, List.mem_cons, or_false] at mem
  all_goals rcases mem with rfl | rfl
  all_goals rfl

/-- A property and its companions are of different kinds. -/
theorem Composer.Pending.pairwise_cascade (pending : Pending) :
    pending.cascade.Pairwise Apart := by
  refine List.pairwise_cons.mpr ⟨fun companion mem => ?_, ?_⟩
  · obtain ⟨found, inCompanions, rfl⟩ := List.mem_map.mp mem
    exact Or.inr (PropertyKind.companions_ne_kind inCompanions)
  · unfold implied
    cases pending.property.kind <;> simp [PropertyKind.companions, Apart]

theorem propertyWidgets_bound_of_mem_implied {companion : Pending}
    (mem : companion ∈ pending.implied) : propertyWidgets companion.bound = [] := by
  obtain ⟨found, inCompanions, rfl⟩ := List.mem_map.mp mem
  simp [propertyWidgets, Pending.bound, Property.elements,
    PropertyKind.elements_of_mem_companions inCompanions]

/-- An entity receives a property with its widgets, and companions, which bring none. -/
theorem Entity.receive_cascade (entity : Entity) (pending : Pending) :
    entity.receive pending.cascade =
      { entity with
        properties := entity.properties ++
          ((if pending.arrivesAt entity then [pending.bound] else []) ++
          (pending.implied.filter fun companion => companion.arrivesAt entity).map Pending.bound)
        searchWidgets := entity.searchWidgets ++
          if pending.arrivesAt entity then propertyWidgets pending.bound else [] } := by
  have bare : ((pending.implied.filter fun companion => companion.arrivesAt entity).map
      Pending.bound).flatMap propertyWidgets = [] := by
    simp only [List.flatMap_eq_nil_iff, List.forall_mem_map]
    exact fun companion mem => propertyWidgets_bound_of_mem_implied (List.mem_of_mem_filter mem)
  cases arrives : pending.arrivesAt entity <;>
    simp [Entity.receive, Pending.cascade, arrives, bare]

/-- What is left of an entity after an attachment: the entity of the key has the property and its
widgets, and every entity has the companions that were meant for it and were not there. -/
def Entity.attached (entity : Entity) (key : EntityKey) (property : Property)
    (visibility : Visibility) : Entity :=
  { entity with
    properties := entity.properties ++
      (if entity.key = key then [{ property with owner := some key, visibility }] else []) ++
      ((property.kind.companions key property.name).filter fun companion =>
          companion.target == entity.key && entity.properties.all fun existing =>
            existing.name != companion.property.name ||
              existing.kind != companion.property.kind).map fun companion =>
        { companion.property with owner := some companion.target, visibility }
    searchWidgets := entity.searchWidgets ++
      if entity.key = key ∧ visibility = .active then
        ((property.kind.elements key property.name).filter StoredElement.searchable).map
          fun element =>
            { element := .property property.name element.name, kind := .forType element.type
              isPrimary := true, label := element.label }
      else [] }

namespace Schema

variable {key : EntityKey} {property : Property} {visibility : Visibility}

/-- What is left of a schema after an attachment: every entity has received what was meant for
it. -/
def afterAttachment (schema : Schema) (key : EntityKey) (property : Property)
    (visibility : Visibility) : Schema :=
  { schema with
    entities := schema.entities.map fun entity => entity.attached key property visibility }

theorem receiveAll_cascade (wellFormed : schema.WellFormed)
    (fitsAll : schema.FitsAll (Pending.requested key property visibility).cascade) :
    schema.receiveAll (Pending.requested key property visibility).cascade =
      schema.afterAttachment key property visibility := by
  rw [receiveAll_eq_mapEntities wellFormed fitsAll (Pending.pairwise_cascade _)]
  refine mapEntities_congr fun entity mem => ?_
  have arrives : (Pending.requested key property visibility).arrivesAt entity =
      decide (entity.key = key) := by
    by_cases keyed : entity.key = key
    · obtain ⟨found, known, present | takes⟩ := fitsAll.1
      · exact absurd present.1 Bool.false_ne_true
      · obtain ⟨foundMem, foundKey⟩ := wellFormed.entity?_eq_some_iff.mp known
        obtain rfl := wellFormed.eq_of_key_eq mem foundMem (keyed.trans foundKey.symm)
        simp [takes.arrivesAt keyed, keyed]
    · simp [Pending.arrivesAt, Pending.requested, keyed, Ne.symm keyed]
  have widgets : propertyWidgets (Pending.requested key property visibility).bound =
      if visibility = .active then
        ((property.kind.elements key property.name).filter StoredElement.searchable).map
          fun element =>
            { element := .property property.name element.name, kind := .forType element.type
              isPrimary := true, label := element.label }
      else [] := by
    cases visibility <;> rfl
  rw [Entity.receive_cascade, arrives, widgets, Entity.attached]
  simp only [decide_eq_true_eq, ite_and, List.append_assoc]
  simp only [Pending.implied, List.filter_map, List.map_map]
  rfl

/-- The targets of attachments that fit are entities of the schema. -/
theorem FitsAll.contains (fitsAll : schema.FitsAll queue) :
    ∀ pending ∈ queue, schema.contains pending.target = true := by
  induction queue generalizing schema with
  | nil => simp
  | cons first rest ih =>
      obtain ⟨⟨found, known, -⟩, others⟩ := fitsAll
      obtain ⟨position, entered, -⟩ := entity?_eq_some_iff_getElem?.mp known
      have contained := ih others
      exact List.forall_mem_cons.mpr
        ⟨by simp [Schema.contains, KeyIndex.contains, entered], contained⟩

/-! ## Attachments as commands -/

theorem execute_eq_none_iff {command : Command} {after : Schema} :
    schema.execute command = (after, none) ↔ command.step schema = .ok () after := by
  unfold execute
  split <;> simp_all

theorem execute_property_eq_none_iff (wellFormed : schema.WellFormed) {after : Schema} :
    schema.execute (.property key property visibility) = (after, none) ↔
      schema.phase = .composing ∧
        schema.FitsAll (Pending.requested key property visibility).cascade ∧
        after = schema.afterAttachment key property visibility := by
  rw [execute_eq_none_iff, Command.step, attach_eq_ok_iff wellFormed]
  refine and_congr_right fun _ => and_congr_right fun fitsAll => ?_
  rw [receiveAll_cascade wellFormed fitsAll]

theorem execute_property_fault_eq_none_iff (wellFormed : schema.WellFormed) :
    (schema.execute (.property key property visibility)).2 = none ↔
      schema.phase = .composing ∧
        schema.FitsAll (Pending.requested key property visibility).cascade := by
  constructor
  · intro succeeded
    obtain ⟨composing, fitsAll, -⟩ :=
      (execute_property_eq_none_iff wellFormed).mp (Prod.ext rfl succeeded)
    exact ⟨composing, fitsAll⟩
  · rintro ⟨composing, fitsAll⟩
    exact congrArg Prod.snd
      ((execute_property_eq_none_iff wellFormed).mpr ⟨composing, fitsAll, rfl⟩)

namespace Reachable

/-- What attaching a property does. No more than three attachments are processed, so that a limit
of three would do as well and the actual limit is never reached. On success the property, its
widgets and the companions that are not there yet have been added where they belong, and nothing
else has changed. -/
theorem attachment_effect (reached : schema.Reachable) (key : EntityKey) (property : Property)
    (visibility : Visibility) :
    let queue := [Pending.requested key property visibility]
    let outcome := schema.execute (.property key property visibility)
    processed maxCascadeSteps queue schema ≤ 3 ∧
    drain 3 queue schema = drain maxCascadeSteps queue schema ∧
    (∀ steps target name, outcome.2 ≠ some (.cyclicCascade steps target name)) ∧
    (outcome.2 = none →
      schema.contains key = true ∧
      (∀ companion ∈ property.kind.companions key property.name,
        schema.contains companion.target = true) ∧
      outcome.1 = schema.afterAttachment key property visibility) := by
  refine ⟨processed_requested_le, drain_eq_of_processed_le processed_requested_le (by decide),
    ?_, ?_⟩
  · intro steps target name failed
    unfold execute at failed
    split at failed
    · contradiction
    · rename_i outcome
      obtain rfl := Option.some.inj failed
      have terminates := terminates_attach key property visibility _ _ _ outcome
      simp [Fault.isCyclic] at terminates
  · intro succeeded
    obtain ⟨-, fitsAll, after⟩ :=
      (execute_property_eq_none_iff reached.wellFormed).mp (Prod.ext rfl succeeded)
    obtain ⟨target, implied⟩ := List.forall_mem_cons.mp fitsAll.contains
    exact ⟨target, fun companion mem => implied _ (List.mem_map_of_mem mem), after⟩

/-- Parts that hold one of the two companions of a link that is yet to come. -/
def halfLinkedParts : List Command :=
  Demo.identified Demo.Projects.part "Part" "A physical part" ++
  Demo.identified Demo.Projects.partStructure "Part Structure" "Relation between parts" ++
  [.property Demo.Projects.part
     { name := "LEFTFOR_PARTSTRUCTURE"
       kind := .leftForLink Demo.Projects.partStructure Demo.Projects.part } .legacy]

/-- A link of which both sides lie on one entity, which has one of the companions already: this one
stays as it is, and only the other one is added. -/
theorem attachment_effect_halfLinkedParts :
    let schema := (({ name := "projects" } : Schema).executeAll halfLinkedParts).1
    let link := Property.ofKind (.linkObject Demo.Projects.part Demo.Projects.part)
    let outcome := schema.execute (.property Demo.Projects.partStructure link .active)
    schema.Reachable ∧ outcome.2 = none ∧
      outcome.1 = schema.afterAttachment Demo.Projects.partStructure link .active ∧
      outcome.1.entities.map (fun entity =>
          entity.properties.map fun property => (property.name, property.visibility)) =
        [[("STOREDOBJECT", .active), ("UNIQUEIDENTIFIED", .active),
          ("LEFTFOR_PARTSTRUCTURE", .legacy), ("RIGHTFOR_PARTSTRUCTURE", .active)],
         [("STOREDOBJECT", .active), ("UNIQUEIDENTIFIED", .active), ("LINKOBJECT", .active)]] := by
  have reached : (({ name := "projects" } : Schema).executeAll halfLinkedParts).1.Reachable :=
    (Reachable.start "projects").executeAll halfLinkedParts
  refine ⟨reached, by decide +kernel, ?_, by decide +kernel⟩
  exact ((reached.attachment_effect _ _ _).2.2.2 (by decide +kernel)).2.2

end Reachable

end Schema

end EntitySurface
