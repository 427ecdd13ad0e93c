import EntitySurface.Proofs.Schema.Effects
import EntitySurface.Proofs.Schema.Placement
import EntitySurface.Proofs.Schema.SubObjects

/-!
# Rules that come later

A rule may be given with a property or added to it once it is attached. The two ways check the rule
at different times and against different states of the entity: the property and its companions are
there when the rule comes later. Both refuse the same and lead to the same schema.
-/

namespace EntitySurface

open Composer

variable {entity : Entity} {property : Property} {rule : BusinessRule} {key : EntityKey}
  {visibility : Visibility} {schema : Schema}

/-- The property with one more rule. -/
def Property.withRule (property : Property) (rule : BusinessRule) : Property :=
  { property with rules := property.rules ++ [rule] }

/-! ## Checks of the property -/

namespace Property

@[simp]
theorem tag_withRule : (property.withRule rule).tag = property.tag := rfl

/-- Unless the sub-object rule is repeated, each rule fits on its own. -/
theorem rulesFit_withRule_iff (key : EntityKey)
    (single : ¬ (rule = .subObject ∧ .subObject ∈ property.rules)) :
    (property.withRule rule).RulesFit ↔
      property.RulesFit ∧ ruleFault? key property rule = none := by
  have count : (property.rules ++ [rule]).count .subObject ≤ 1 ↔
      property.rules.count .subObject ≤ 1 := by
    by_cases sub : rule = .subObject
    · have absent : .subObject ∉ property.rules := fun mem => single ⟨sub, mem⟩
      simp [sub, List.count_eq_zero.mpr absent]
    · simp [sub]
  rw [ruleFault?_eq_none_iff]
  constructor
  · intro fit
    have accepted := List.forall_mem_append.mp fit.accepted
    have restricted := List.forall_mem_append.mp fit.restricted
    exact ⟨⟨accepted.1, restricted.1, count.mp fit.single⟩,
      accepted.2 rule List.mem_cons_self, restricted.2 rule List.mem_cons_self⟩
  · rintro ⟨fit, accepted, restricted⟩
    exact
      { accepted := List.forall_mem_append.mpr ⟨fit.accepted, by simpa using accepted⟩
        restricted := List.forall_mem_append.mpr ⟨fit.restricted, by simpa using restricted⟩
        single := count.mpr fit.single }

/-- The rule makes a sub-object link of a parent link. -/
theorem isSubObject_withRule_iff :
    (property.withRule rule).isSubObject = true ↔
      property.isSubObject = true ∨ property.tag = .linkedToParent ∧ rule = .subObject := by
  simp only [isSubObject, withRule, tag, Bool.and_eq_true, beq_iff_eq,
    List.contains_iff_mem, List.mem_append, List.mem_singleton, and_or_left,
    eq_comm (a := BusinessRule.subObject)]

end Property

/-- An entity takes a property with one more rule exactly when it takes the property and the rule
fits; it may have no parent link yet if the property becomes a sub-object link. -/
theorem Entity.takes_withRule_iff (single : ¬ (rule = .subObject ∧ .subObject ∈ property.rules)) :
    entity.Takes schema (.requested key (property.withRule rule) visibility) ↔
      entity.Takes schema (.requested key property visibility) ∧
        ruleFault? key property rule = none ∧
        (rule = .subObject → ∀ link ∈ entity.properties, link.tag ≠ .linkedToParent) := by
  let plain := Pending.requested key property visibility
  let ruled := Pending.requested key (property.withRule rule) visibility
  have rules : rulesFault? key (property.withRule rule) = none ↔
      rulesFault? key property = none ∧ ruleFault? key property rule = none := by
    rw [rulesFault?_eq_none_iff, rulesFault?_eq_none_iff, Property.rulesFit_withRule_iff key single]
  have parentLinks : ruleFault? key property rule = none →
      (entity.checkParentLink ruled.bound = .ok () ↔
        entity.checkParentLink plain.bound = .ok () ∧
        (rule = .subObject → ∀ link ∈ entity.properties, link.tag ≠ .linkedToParent)) := by
    intro fits
    have tagged : rule = .subObject → property.tag = .linkedToParent := by
      rintro rfl
      exact (eq_of_beq (ruleFault?_eq_none_iff.mp fits).1).symm
    have plainSub : plain.bound.isSubObject = property.isSubObject := rfl
    have ruledSub : ruled.bound.isSubObject = (property.withRule rule).isSubObject := rfl
    have tags : ruled.bound.tag = plain.bound.tag := rfl
    simp only [checkParentLink_eq_ok_iff, tags, plainSub, ruledSub,
      Property.isSubObject_withRule_iff, and_iff_right_of_imp tagged, or_imp, and_assoc]
  have bindings : bindingFault? schema key (property.withRule rule) =
    bindingFault? schema key property := rfl
  have elements : ruled.bound.elements = plain.bound.elements := rfl
  have widgets : propertyWidgets ruled.bound = propertyWidgets plain.bound := rfl
  constructor
  · intro takes
    obtain ⟨rulesFit, ruleFits⟩ := rules.mp takes.rules
    obtain ⟨plainLinks, alone⟩ := (parentLinks ruleFits).mp takes.parentLinks
    exact ⟨⟨takes.identifier, rulesFit, bindings ▸ takes.bindings, takes.unowned, takes.fresh,
      elements ▸ takes.columns, plainLinks, widgets ▸ takes.widgets⟩, ruleFits, alone⟩
  · rintro ⟨takes, ruleFits, alone⟩
    exact ⟨takes.identifier, rules.mpr ⟨takes.rules, ruleFits⟩, bindings ▸ takes.bindings,
      takes.unowned, takes.fresh, elements ▸ takes.columns,
      (parentLinks ruleFits).mpr ⟨takes.parentLinks, alone⟩, widgets ▸ takes.widgets⟩

/-! ## Companions do not see rules -/

/-- The key of an entity with the names and kinds of its properties. -/
def Entity.outline (entity : Entity) : EntityKey × List (String × PropertyKind) :=
  (entity.key, entity.properties.map fun property => (property.name, property.kind))

/-- Two schemas with the same keys, names and kinds, and with the same categories. -/
structure Schema.SameOutline (left right : Schema) : Prop where
  index : left.index = right.index
  catalog : left.catalog = right.catalog
  entities : left.entities.map Entity.outline = right.entities.map Entity.outline

/-- A companion is given by its name and kind, and it is no parent link. -/
theorem PropertyKind.companion_eq {kind : PropertyKind} {owner : EntityKey} {name : String}
    {companion : Companion} (mem : companion ∈ kind.companions owner name) :
    companion.property = { name := companion.property.name, kind := companion.property.kind } ∧
      companion.property.tag ≠ .linkedToParent := by
  cases kind <;> simp only [companions, List.not_mem_nil, List.mem_cons, or_false] at mem
  all_goals rcases mem with rfl | rfl
  all_goals exact ⟨rfl, by simp [Property.tag, PropertyKind.tag]⟩

theorem Entity.kind_property?_eq_of_outline_eq {left right : Entity}
    (same : left.outline = right.outline) (name : String) :
    (left.property? name).map Property.kind = (right.property? name).map Property.kind := by
  have listed : ∀ entity : Entity, (entity.property? name).map Property.kind =
      (entity.outline.2.find? fun entry => entry.1 == name).map Prod.snd := by
    intro entity
    simp [outline, property?, List.find?_map, Function.comp_def]
  rw [listed, listed, same]

namespace Composer.Pending

variable {pending first second companion : Pending} {left right : Schema}

/-- An entity takes an implied companion under any new name, if what it refers to is there. -/
theorem takes_iff_of_mem_implied (mem : companion ∈ pending.implied) :
    entity.Takes schema companion ↔
      entity.property? companion.property.name = none ∧
        Name.identifierProblem? companion.property.name = none ∧
        bindingFault? schema companion.target companion.property = none := by
  have bare := propertyWidgets_bound_of_mem_implied mem
  obtain ⟨found, inCompanions, rfl⟩ := List.mem_map.mp mem
  obtain ⟨plain, noLink⟩ := PropertyKind.companion_eq inCompanions
  have noRules : found.property.rules = [] := congrArg Property.rules plain
  have noElements := PropertyKind.elements_of_mem_companions inCompanions
  constructor
  · intro takes
    exact ⟨takes.fresh, takes.identifier, takes.bindings⟩
  · rintro ⟨fresh, identifier, bindings⟩
    exact
      { identifier, bindings, fresh
        rules := by simp [rulesFault?, noRules]
        unowned := congrArg Property.owner plain
        columns := by simp [bound, Property.elements, noElements]
        parentLinks := Entity.checkParentLink_eq_ok_iff.mpr
          ⟨fun tagged => absurd tagged noLink,
            fun subObject => absurd (Entity.tag_of_isSubObject subObject) noLink⟩
        widgets := by simp [bare, Pure.pure, Except.pure] }

/-- Whether an implied companion fits is a matter of names and kinds. -/
theorem fits_iff_of_mem_implied (mem : companion ∈ pending.implied) :
    companion.Fits schema ↔ ∃ found, schema.entity? companion.target = some found ∧
      ((found.property? companion.property.name).map Property.kind =
          some companion.property.kind ∨
        (found.property? companion.property.name).map Property.kind = none ∧
          Name.identifierProblem? companion.property.name = none ∧
          bindingFault? schema companion.target companion.property = none) := by
  have isCompanion : companion.isCompanion = true := by
    obtain ⟨found, -, rfl⟩ := List.mem_map.mp mem
    rfl
  simp only [Fits, IsPresent, isCompanion, true_and, takes_iff_of_mem_implied mem,
    Option.map_eq_some_iff, Option.map_eq_none_iff]

theorem outline_receivedBy {one other : Entity} (same : one.outline = other.outline)
    (target : first.target = second.target)
    (name : first.property.name = second.property.name)
    (kind : first.property.kind = second.property.kind) :
    (first.receivedBy one).outline = (second.receivedBy other).outline := by
  have keys : one.key = other.key := congrArg Prod.fst same
  have listed := congrArg Prod.snd same
  have kinds := Entity.kind_property?_eq_of_outline_eq same first.property.name
  have fresh : one.property? first.property.name = none ↔
      other.property? second.property.name = none := by
    rw [← Option.map_eq_none_iff, kinds, Option.map_eq_none_iff, name]
  unfold receivedBy
  simp only [keys, target, fresh]
  split
  · simp only [Entity.outline, Entity.withProperty, List.map_append] at listed ⊢
    simp [keys, listed, bound, name, kind]
  · exact same

end Composer.Pending

namespace Schema.SameOutline

variable {left right : Schema} {pending companion : Pending} {queue : List Pending}

theorem mapEntities (same : SameOutline left right) {first second : Entity → Entity}
    (changes : ∀ one other, one.outline = other.outline →
      (first one).outline = (second other).outline) :
    SameOutline (left.mapEntities first) (right.mapEntities second) where
  index := same.index
  catalog := same.catalog
  entities := by
    refine List.ext_getElem? fun position => ?_
    have here := congrArg (fun entries => entries[position]?) same.entities
    simp only [Schema.mapEntities, List.getElem?_map, Option.map_map] at here ⊢
    cases one : left.entities[position]? with
    | none =>
        rw [one] at here
        rw [Option.map_eq_none_iff.mp here.symm, Option.map_none, Option.map_none]
    | some entity =>
        rw [one] at here
        obtain ⟨other, there, outlines⟩ := Option.map_eq_some_iff.mp here.symm
        rw [there]
        exact congrArg some (changes _ _ outlines.symm)

theorem entity? (same : SameOutline left right) (key : EntityKey) :
    (left.entity? key).map Entity.outline = (right.entity? key).map Entity.outline := by
  have outlined : ∀ schema : Schema, (schema.entity? key).map Entity.outline =
      (schema.index.position? key).bind fun position =>
        (schema.entities.map Entity.outline)[position]? := by
    intro schema
    unfold Schema.entity?
    cases schema.index.position? key <;> simp
  rw [outlined, outlined, same.index, same.entities]

theorem fits_iff (same : SameOutline left right) (mem : companion ∈ pending.implied) :
    companion.Fits left ↔ companion.Fits right := by
  rw [Pending.fits_iff_of_mem_implied mem, Pending.fits_iff_of_mem_implied mem]
  have bindings : bindingFault? left companion.target companion.property =
      bindingFault? right companion.target companion.property := by
    have unresolved : isUnresolved left = isUnresolved right := by
      funext binding
      simp only [isUnresolved, Schema.contains, same.index, same.catalog]
    simp only [bindingFault?, unresolved]
  have targets := same.entity? companion.target
  rw [bindings]
  cases here : left.entity? companion.target with
  | none =>
      rw [here] at targets
      simp [Option.map_eq_none_iff.mp targets.symm]
  | some one =>
      rw [here] at targets
      obtain ⟨other, there, outlines⟩ := Option.map_eq_some_iff.mp targets.symm
      simp only [there, Option.some.injEq, exists_eq_left',
        Entity.kind_property?_eq_of_outline_eq outlines]

/-- Whether implied companions fit is decided by the outlines. -/
theorem fitsAll_iff (same : SameOutline left right) (implied : queue ⊆ pending.implied) :
    left.FitsAll queue ↔ right.FitsAll queue := by
  induction queue generalizing left right with
  | nil => exact Iff.rfl
  | cons first rest ih =>
      obtain ⟨mem, others⟩ := List.cons_subset.mp implied
      have received : SameOutline (left.mapEntities first.receivedBy)
          (right.mapEntities first.receivedBy) :=
        same.mapEntities fun one other same => Pending.outline_receivedBy same rfl rfl rfl
      exact and_congr (same.fits_iff mem) (ih received others)

end Schema.SameOutline

/-! ## The two ways -/

/-- In a list, the entry of a name that no entry before it has is the one that is changed. -/
theorem Entity.modifyProperty_go_append {name : String} {change : Property → Property}
    {front : List Property} (absent : ∀ other ∈ front, other.name ≠ name)
    (named : property.name = name) (back : List Property) :
    Entity.modifyProperty.go name change (front ++ property :: back) =
      front ++ change property :: back := by
  induction front with
  | nil => simp [modifyProperty_go_cons, named]
  | cons first rest ih =>
      obtain ⟨firstApart, restApart⟩ := List.forall_mem_cons.mp absent
      rw [List.cons_append, modifyProperty_go_cons, if_neg (by simpa using firstApart),
        ih restApart, List.cons_append]

/-- The companions that arrive at an entity are no parent links. -/
theorem Entity.mem_of_mem_attached {other : Property}
    (mem : other ∈ (entity.attached key property visibility).properties)
    (linked : other.tag = .linkedToParent) :
    other ∈ entity.properties ∨ other.name = property.name := by
  simp only [attached, List.mem_append, List.mem_map, List.mem_filter] at mem
  rcases mem with (old | new) | ⟨companion, ⟨inCompanions, -⟩, rfl⟩
  · exact Or.inl old
  · split at new
    · exact Or.inr (by rw [List.mem_singleton.mp new])
    · contradiction
  · exact absurd linked (PropertyKind.companion_eq inCompanions).2

/-- Attaching the property and then adding the rule leaves the entity as attaching the property with
the rule does. -/
theorem Entity.withRule_attached (keyed : entity.key = key)
    (fresh : entity.property? property.name = none) :
    (entity.attached key property visibility).withRule property.name rule =
      entity.attached key (property.withRule rule) visibility := by
  let stored : Property := { property with owner := some key, visibility }
  have named : stored.name = property.name := rfl
  have changed (back : List Property) :
      modifyProperty.go property.name (fun found => { found with rules := found.rules ++ [rule] })
          (entity.properties ++ stored :: back) =
        entity.properties ++ { stored with rules := stored.rules ++ [rule] } :: back :=
    modifyProperty_go_append (property?_eq_none_iff.mp fresh) named back
  simp [withRule, modifyProperty, attached, keyed, changed, Property.withRule, stored]

theorem Entity.property?_attached (keyed : entity.key = key)
    (fresh : entity.property? property.name = none) :
    (entity.attached key property visibility).property? property.name =
      some { property with owner := some key, visibility } := by
  have absent : entity.properties.find? (fun other => other.name == property.name) = none := fresh
  simp [property?, attached, keyed, absent]

/-- Adding a rule to the attached property asks for what the property had to meet with the rule. -/
theorem Entity.addRule_attached_eq_ok_iff (keyed : entity.key = key)
    (fresh : entity.property? property.name = none)
    (single : ¬ (rule = .subObject ∧ .subObject ∈ property.rules)) {grown : Entity} :
    (entity.attached key property visibility).addRule property.name rule = .ok grown ↔
      rule.accepts property.tag = true ∧
        (rule = .subObject → ∀ link ∈ entity.properties, link.tag ≠ .linkedToParent) ∧
        entity.attached key (property.withRule rule) visibility = grown := by
  have alone_iff : (∀ other ∈ (entity.attached key property visibility).properties,
      other.tag = .linkedToParent → other.name = property.name) ↔
        ∀ link ∈ entity.properties, link.tag ≠ .linkedToParent := by
    constructor
    · intro named link mem linked
      exact property?_eq_none_iff.mp fresh link mem
        (named link (by simp [attached, mem]) linked)
    · intro alone other mem linked
      exact (mem_of_mem_attached mem linked).resolve_left fun old => alone other old linked
  rw [addRule_eq_ok_iff, property?_attached keyed fresh, withRule_attached keyed fresh]
  simp only [Option.some.injEq, exists_eq_left', alone_iff]
  refine and_congr_right fun _ => ?_
  by_cases sub : rule = .subObject
  · have absent : .subObject ∉ property.rules := fun mem => single ⟨sub, mem⟩
    simp [sub, Property.isSubObject, absent]
  · simp [sub]

namespace Schema

theorem fits_requested_iff :
    (Pending.requested key property visibility).Fits schema ↔
      ∃ found, schema.entity? key = some found ∧
        found.Takes schema (.requested key property visibility) := by
  simp [Pending.Fits, Pending.IsPresent, Pending.requested]

theorem SameOutline.refl (schema : Schema) : SameOutline schema schema :=
  ⟨rfl, rfl, rfl⟩

theorem fitsAll_withRule_iff (single : ¬ (rule = .subObject ∧ .subObject ∈ property.rules)) :
    schema.FitsAll (Pending.requested key (property.withRule rule) visibility).cascade ↔
      schema.FitsAll (Pending.requested key property visibility).cascade ∧
        ruleFault? key property rule = none ∧
        (rule = .subObject → ∀ found, schema.entity? key = some found →
          ∀ link ∈ found.properties, link.tag ≠ .linkedToParent) := by
  let plain := Pending.requested key property visibility
  let ruled := Pending.requested key (property.withRule rule) visibility
  have same : SameOutline (schema.mapEntities ruled.receivedBy)
      (schema.mapEntities plain.receivedBy) :=
    (SameOutline.refl schema).mapEntities fun one other same =>
      Pending.outline_receivedBy same rfl rfl rfl
  have companions : (schema.mapEntities ruled.receivedBy).FitsAll plain.implied ↔
      (schema.mapEntities plain.receivedBy).FitsAll plain.implied :=
    same.fitsAll_iff (List.Subset.refl _)
  show ruled.Fits schema ∧ (schema.mapEntities ruled.receivedBy).FitsAll plain.implied ↔
    (plain.Fits schema ∧ (schema.mapEntities plain.receivedBy).FitsAll plain.implied) ∧ _
  rw [companions, fits_requested_iff, fits_requested_iff]
  cases known : schema.entity? key with
  | none => simp
  | some found =>
      simp only [Option.some.injEq, exists_eq_left', forall_eq', Entity.takes_withRule_iff single]
      tauto

theorem execute_rule_eq_none_iff {name : String} {after : Schema} :
    schema.execute (.rule key name rule) = (after, none) ↔
      schema.phase = .composing ∧ ∃ found, schema.entity? key = some found ∧
        ∃ attached, found.property? name = some attached ∧ ruleFault? key attached rule = none ∧
          ∃ grown, found.addRule name rule = .ok grown ∧ schema.replace key grown = after := by
  simp only [execute_eq_none_iff, Command.step, attachRule, bind_eq_ok_iff,
    ensureComposing_eq_ok_iff, requireEntity_eq_ok_iff]
  constructor
  · rintro ⟨_, _, ⟨composing, rfl⟩, found, _, ⟨known, rfl⟩, rest⟩
    cases named : found.property? name with
    | none =>
        rw [named] at rest
        exact absurd rest throw_ne_ok
    | some attached =>
        simp only [named, bind_eq_ok_iff, check_eq_ok_iff, modifyEntity_eq_ok_iff] at rest
        obtain ⟨_, _, ⟨fits, rfl⟩, other, grown, otherKnown, added, replaced⟩ := rest
        obtain rfl := Option.some.inj (known.symm.trans otherKnown)
        exact ⟨composing, found, known, attached, named, fits, grown, added, replaced⟩
  · rintro ⟨composing, found, known, attached, named, fits, grown, added, replaced⟩
    refine ⟨(), _, ⟨composing, rfl⟩, found, _, ⟨known, rfl⟩, ?_⟩
    simp only [named, bind_eq_ok_iff, check_eq_ok_iff, modifyEntity_eq_ok_iff]
    exact ⟨(), _, ⟨fits, rfl⟩, found, grown, known, added, replaced⟩

/-- The rule that comes later is accepted when it would have been accepted with the property. -/
theorem execute_rule_afterAttachment (wellFormed : schema.WellFormed)
    (afterwards : (schema.afterAttachment key property visibility).WellFormed)
    (fits : (Pending.requested key property visibility).Fits schema)
    (single : ¬ (rule = .subObject ∧ .subObject ∈ property.rules)) {after : Schema} :
    (schema.afterAttachment key property visibility).execute (.rule key property.name rule) =
        (after, none) ↔
      schema.phase = .composing ∧ ruleFault? key property rule = none ∧
        (rule = .subObject → ∀ found, schema.entity? key = some found →
          ∀ link ∈ found.properties, link.tag ≠ .linkedToParent) ∧
        schema.afterAttachment key (property.withRule rule) visibility = after := by
  obtain ⟨found, known, takes⟩ := fits_requested_iff.mp fits
  have keyed := wellFormed.key_eq known
  have fresh : found.property? property.name = none := takes.fresh
  have stored : (schema.afterAttachment key property visibility).entity? key =
      some (found.attached key property visibility) := by
    show (schema.mapEntities _).entity? key = _
    rw [entity?_mapEntities, known, Option.map_some]
  have replaced : (schema.afterAttachment key property visibility).replace key
      (found.attached key (property.withRule rule) visibility) =
        schema.afterAttachment key (property.withRule rule) visibility := by
    rw [afterwards.replace_eq_mapEntities stored]
    show (schema.mapEntities _).mapEntities _ = schema.mapEntities _
    rw [mapEntities_mapEntities]
    refine mapEntities_congr fun entity mem => ?_
    by_cases here : entity.key = key
    · obtain rfl : entity = found :=
        wellFormed.eq_of_key_eq mem (wellFormed.entity?_eq_some_iff.mp known).1
          (here.trans keyed.symm)
      exact if_pos here
    · rw [if_neg (show (entity.attached key property visibility).key ≠ key from here)]
      simp [Entity.attached, here, Property.withRule]
  have checked : ruleFault? key { property with owner := some key, visibility } rule =
      ruleFault? key property rule := rfl
  simp only [execute_rule_eq_none_iff, stored, Option.some.injEq, exists_eq_left', known,
    Entity.property?_attached keyed fresh, checked,
    Entity.addRule_attached_eq_ok_iff keyed fresh single, forall_eq']
  constructor
  · rintro ⟨composing, fits, _, ⟨-, alone, rfl⟩, rfl⟩
    exact ⟨composing, fits, alone, replaced.symm⟩
  · rintro ⟨composing, fits, alone, rfl⟩
    exact ⟨composing, fits, _, ⟨(ruleFault?_eq_none_iff.mp fits).1, alone, rfl⟩, replaced⟩

theorem executeAll_pair_eq_iff {first second : Command} {after : Schema} :
    schema.executeAll [first, second] = (after, [none, none]) ↔
      ∃ middle, schema.execute first = (middle, none) ∧ middle.execute second = (after, none) := by
  simp [executeAll, Prod.ext_iff, and_left_comm]

namespace Reachable

/-- Attaching a property with one more rule succeeds and leads to a schema exactly when attaching
the property and then adding the rule succeed and lead to this schema. The one exception is a
sub-object rule that the property has already: given twice it is refused, added again it is
ignored. -/
theorem execute_property_withRule_iff (reached : schema.Reachable) (key : EntityKey)
    (property : Property) (rule : BusinessRule) (visibility : Visibility) (after : Schema)
    (single : ¬ (rule = .subObject ∧ .subObject ∈ property.rules)) :
    schema.execute (.property key { property with rules := property.rules ++ [rule] } visibility) =
        (after, none) ↔
      schema.executeAll [.property key property visibility, .rule key property.name rule] =
        (after, [none, none]) := by
  have attached_iff (given : Property) (after : Schema) :
      schema.execute (.property key given visibility) = (after, none) ↔
        schema.phase = .composing ∧
          schema.FitsAll (Pending.requested key given visibility).cascade ∧
          after = schema.afterAttachment key given visibility :=
    execute_property_eq_none_iff reached.wellFormed
  have afterwards (composing : schema.phase = .composing)
      (fitsAll : schema.FitsAll (Pending.requested key property visibility).cascade) :
      (schema.afterAttachment key property visibility).WellFormed := by
    have outcome := (attached_iff property _).mpr ⟨composing, fitsAll, rfl⟩
    have step := (reached.step (.property key property visibility)).wellFormed
    rwa [outcome] at step
  rw [executeAll_pair_eq_iff]
  change schema.execute (.property key (property.withRule rule) visibility) = _ ↔ _
  simp only [attached_iff, fitsAll_withRule_iff single]
  constructor
  · rintro ⟨composing, ⟨fitsAll, fits, alone⟩, rfl⟩
    exact ⟨_, ⟨composing, fitsAll, rfl⟩,
      (execute_rule_afterAttachment reached.wellFormed (afterwards composing fitsAll) fitsAll.1
        single).mpr ⟨composing, fits, alone, rfl⟩⟩
  · rintro ⟨_, ⟨composing, fitsAll, rfl⟩, ruled⟩
    obtain ⟨-, fits, alone, same⟩ := (execute_rule_afterAttachment reached.wellFormed
      (afterwards composing fitsAll) fitsAll.1 single).mp ruled
    exact ⟨composing, ⟨fitsAll, fits, alone⟩, same.symm⟩

/-- Orders, and order lines that are about to be linked to them. -/
def unlinkedOrderLines : List Command :=
  Demo.identified Demo.Sales.order "Order" "A customer order" ++
  Demo.identified Demo.Sales.orderLine "Order Line" "One position of an order"

/-- Order lines become sub-objects of their order in either way. -/
theorem execute_property_withRule_iff_orderLines :
    let schema := (({ name := "sales" } : Schema).executeAll unlinkedOrderLines).1
    let link : Property :=
      { name := "ORDER", kind := .linkedToParent Demo.Sales.order, rules := [.parentOwnsDeletion] }
    let outcome := schema.execute
      (.property Demo.Sales.orderLine { link with rules := link.rules ++ [.subObject] } .active)
    schema.Reachable ∧ .subObject ∉ link.rules ∧ outcome.2 = none ∧
      outcome.1.entities.map Entity.isSubObject = [false, true] ∧
      schema.executeAll [.property Demo.Sales.orderLine link .active,
        .rule Demo.Sales.orderLine link.name .subObject] = (outcome.1, [none, none]) := by
  have reached : (({ name := "sales" } : Schema).executeAll unlinkedOrderLines).1.Reachable :=
    (Reachable.start "sales").executeAll unlinkedOrderLines
  refine ⟨reached, by decide, by decide +kernel, by decide +kernel, ?_⟩
  exact (reached.execute_property_withRule_iff _ _ _ _ _ (by decide)).mp
    (Prod.ext rfl (by decide +kernel))

end Reachable

end Schema

end EntitySurface
