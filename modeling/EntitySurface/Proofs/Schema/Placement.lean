import EntitySurface.Proofs.Derivation.Faults

/-!
# Where business rules stand

A rule reaches a stored property with the property, which is taken as it is given, or by a step of
its own. On both ways it has to be made for the kind of the property, and a restriction to states
has to list a state. The sub-object rule is there once at most, and only on a parent link that
stands alone.
-/

namespace EntitySurface

open Composer

/-- The rules of a property are made for its kind, restrictions allow some state, and the sub-object
rule is not repeated. -/
structure Property.RulesFit (property : Property) : Prop where
  accepted : ∀ rule ∈ property.rules, rule.accepts property.tag = true
  restricted : ∀ rule ∈ property.rules, rule.states? ≠ some []
  single : property.rules.count .subObject ≤ 1

/-- All stored properties carry rules that fit. -/
def Entity.RulesFit (entity : Entity) : Prop :=
  ∀ property ∈ entity.properties, property.RulesFit

namespace Composer

variable {key : EntityKey} {property : Property} {rule : BusinessRule}

theorem ruleFault?_eq_none_iff :
    ruleFault? key property rule = none ↔
      rule.accepts property.tag = true ∧ rule.states? ≠ some [] := by
  unfold ruleFault?
  cases rule.accepts property.tag <;> simp

/-- The rules that a property is given are checked one by one and then as a whole. -/
theorem rulesFault?_eq_none_iff : rulesFault? key property = none ↔ property.RulesFit := by
  have each : property.rules.findSome? (ruleFault? key property) = none ↔
      ∀ rule ∈ property.rules, rule.accepts property.tag = true ∧ rule.states? ≠ some [] := by
    simp only [List.findSome?_eq_none_iff, ruleFault?_eq_none_iff]
  unfold rulesFault?
  cases checked : property.rules.findSome? (ruleFault? key property) with
  | some fault =>
      simp only [reduceCtorEq, false_iff]
      intro fit
      rw [each.mpr fun rule mem => ⟨fit.accepted rule mem, fit.restricted rule mem⟩] at checked
      contradiction
  | none =>
      have checked := each.mp checked
      simp only [ite_eq_right_iff, reduceCtorEq, imp_false, Nat.not_lt]
      exact ⟨fun single => ⟨fun rule mem => (checked rule mem).1, fun rule mem =>
        (checked rule mem).2, single⟩, fun fit => fit.single⟩

end Composer

namespace Entity

variable {entity grown : Entity} {property : Property}

/-- Only the kinds and rules of the properties count. -/
theorem RulesFit.of_properties (fit : entity.RulesFit) {properties : List Property}
    (same : properties.map (fun property => (property.kind, property.rules)) =
      entity.properties.map fun property => (property.kind, property.rules)) :
    { entity with properties }.RulesFit := by
  intro property mem
  obtain ⟨old, oldMem, equal⟩ := List.mem_map.mp
    (same ▸ List.mem_map_of_mem mem : (property.kind, property.rules) ∈ _)
  obtain ⟨sameKind, sameRules⟩ := Prod.mk.inj equal
  have oldFit := fit old oldMem
  have sameTag : old.tag = property.tag := congrArg PropertyKind.tag sameKind
  exact
    { accepted := sameTag ▸ sameRules ▸ oldFit.accepted
      restricted := sameRules ▸ oldFit.restricted
      single := sameRules ▸ oldFit.single }

/-- A rule that was checked may be added. A second sub-object rule is not. -/
theorem RulesFit.addRule (fit : entity.RulesFit) {name : String} {rule : BusinessRule}
    {attached : Property} (found : entity.property? name = some attached)
    (checked : ruleFault? entity.key attached rule = none)
    (added : entity.addRule name rule = .ok grown) : grown.RulesFit := by
  obtain ⟨accepted, restricted⟩ := ruleFault?_eq_none_iff.mp checked
  have fitAttached := fit attached (mem_of_property?_eq_some found).1
  have fitExtended (single : (attached.rules ++ [rule]).count .subObject ≤ 1) :
      (entity.withRule name rule).RulesFit := by
    intro property mem
    rcases mem_modifyProperty mem with old | ⟨other, otherFound, rfl⟩
    · exact fit property old
    · rw [found, Option.some.injEq] at otherFound
      subst otherFound
      refine ⟨fun other mem => ?_, fun other mem => ?_, single⟩
      · rcases List.mem_append.mp mem with old | new
        · exact fitAttached.accepted other old
        · exact List.mem_singleton.mp new ▸ accepted
      · rcases List.mem_append.mp mem with old | new
        · exact fitAttached.restricted other old
        · exact List.mem_singleton.mp new ▸ restricted
  obtain ⟨same, sameFound, -, outcome⟩ := addRule_eq_ok_iff.mp added
  rw [found, Option.some.injEq] at sameFound
  subst sameFound
  by_cases isSubObject : rule = .subObject
  · rw [if_pos isSubObject] at outcome
    subst isSubObject
    cases already : attached.isSubObject with
    | true =>
        rw [already, if_pos rfl] at outcome
        exact outcome ▸ fit
    | false =>
        rw [already, if_neg Bool.false_ne_true] at outcome
        have linked : attached.tag = .linkedToParent := (eq_of_beq accepted).symm
        have absent : .subObject ∉ attached.rules := by
          simpa [Property.isSubObject, linked] using already
        exact outcome.2 ▸ fitExtended (by simp [List.count_eq_zero.mpr absent])
  · rw [if_neg isSubObject] at outcome
    have single := fitAttached.single
    exact outcome ▸ fitExtended (by simpa [List.count_singleton, isSubObject] using single)

/-- Rules stay with properties that they are made for throughout a run. -/
theorem rulesFit_invariant : Entity.Invariant RulesFit where
  declared key label := fun property mem => absurd mem List.not_mem_nil
  addition := by
    intro schema entity grown wellFormed added fit
    cases added with
    | description | field => exact fit
    | property target identifier rules bindings unowned added shown =>
        intro property mem
        rcases List.mem_append.mp mem with old | new
        · exact fit property old
        · obtain rfl := List.mem_singleton.mp new
          have checked := rulesFault?_eq_none_iff.mp rules
          exact ⟨checked.accepted, checked.restricted, checked.single⟩
    | rule found fits added => exact fit.addRule found fits added
    | hook added =>
        rw [← (addHook_eq_ok_iff.mp added).2]
        apply fit.of_properties
        refine map_modifyProperty ?_ entity _
        exact fun _ => rfl
    | widget resolved added =>
        rw [addWidget_ok_eq added]
        exact fit
    | tab identifier added =>
        rw [← (addTab_eq_ok_iff.mp added).2.2]
        exact fit
    | loaderAlias added =>
        rw [← (addAlias_eq_ok_iff.mp added).2]
        exact fit
  finalize := by
    intro entity fit
    obtain ⟨finalized, same⟩ := entity.exists_finalize_eq
    rw [same]
    exact fit.of_properties
      (Property.map_eq_map_of_unresolved (fun _ => rfl) entity.map_unresolved_settling)

/-- A sub-object link is the one parent link of the list of properties. -/
theorem SoleSubObject.filter_linkedToParent_eq (sole : entity.SoleSubObject)
    (names : (entity.properties.map Property.name).Nodup) {link : Property}
    (mem : link ∈ entity.properties) (subObject : link.isSubObject = true) :
    (entity.properties.filter fun other => other.tag == .linkedToParent) = [link] := by
  have distinct : (entity.properties.filter fun other => other.tag == .linkedToParent).Nodup :=
    (List.Nodup.of_map _ names).filter _
  rw [← List.perm_singleton, List.perm_ext_iff_of_nodup distinct (List.nodup_singleton link)]
  intro other
  rw [List.mem_filter, List.mem_singleton, beq_iff_eq]
  constructor
  · rintro ⟨stored, tagged⟩
    exact List.inj_on_of_nodup_map names stored mem (sole link mem subObject other stored tagged)
  · rintro rfl
    exact ⟨mem, tag_of_isSubObject subObject⟩

end Entity

/-- Deletion does not miss the parent of a sub-object. -/
theorem Derivation.deletion_ne_orphanSubObject (entity : Entity) (link : String) :
    deletion entity ≠ .error (.orphanSubObject link) := by
  unfold deletion
  split
  · simp
  · split
    · next found =>
      obtain ⟨parent, shown⟩ := exists_parentArgument? (List.find?_some found)
      simp [shown]
    · split <;> simp

namespace Schema

/-- Throughout a run, a sub-object link is the only parent link that its entity stores, rules stand
on properties of the kind they are made for, every restriction to states lists a state, and the
sub-object rule is not repeated. So the parents of an entity can always be changed, and deletion
finds the parent of a sub-object. -/
theorem Reachable.rules_placed {schema : Schema} (reached : schema.Reachable) {entity : Entity}
    (stored : entity ∈ schema.entities) :
    (∀ link ∈ entity.properties, link.tag = .linkedToParent → .subObject ∈ link.rules →
      (entity.properties.filter fun other => other.tag == .linkedToParent) = [link]) ∧
    (∀ property ∈ entity.properties, ∀ rule ∈ property.rules,
      rule.accepts property.tag = true ∧
      ∀ states, rule = .leftStateRestriction states ∨ rule = .rightStateRestriction states →
        states ≠ []) ∧
    (∀ property ∈ entity.properties, property.rules.count .subObject ≤ 1) ∧
    Derivation.parentChanges entity =
      .ok (entity.parentLinks.flatMap (Derivation.parentChange entity)) ∧
    ∀ link, Derivation.deletion entity ≠ .error (.orphanSubObject link) := by
  have names := (reached.wellFormed.entities entity stored).propertyNames
  have sole := reached.forall_entities Entity.soleSubObject_invariant entity stored
  have fit := reached.forall_entities Entity.rulesFit_invariant entity stored
  refine ⟨?_, ?_, fun property mem => (fit property mem).single,
    sole.parentChanges_eq names, Derivation.deletion_ne_orphanSubObject entity⟩
  · intro link mem tagged carried
    exact sole.filter_linkedToParent_eq names mem (by simp [Property.isSubObject, tagged, carried])
  · intro property mem rule carried
    refine ⟨(fit property mem).accepted rule carried, ?_⟩
    rintro states (rfl | rfl) empty
    · exact (fit property mem).restricted _ carried (by rw [empty]; rfl)
    · exact (fit property mem).restricted _ carried (by rw [empty]; rfl)

/-- Lines of an order. The lines are given the sub-object rule a second time and a second parent,
once for use and once for storage only. -/
def linesUnderOrder : List Command :=
  Demo.Sales.categories ++ Demo.Sales.customers ++ Demo.Sales.orders ++ Demo.Sales.orderLines ++
  [.rule Demo.Sales.orderLine "ORDER" .subObject,
   Demo.attach Demo.Sales.orderLine (.ofKind (.linkedToParent Demo.Sales.customer)),
   .property Demo.Sales.orderLine (.ofKind (.linkedToParent Demo.Sales.customer)) .legacy]

/-- The link to the order stays the only parent link of the lines and bears the rule once. -/
theorem rules_placed_linesUnderOrder :
    let schema := (({ name := "sales" } : Schema).executeAll linesUnderOrder).1
    ∃ line ∈ schema.entities, line.key = Demo.Sales.orderLine ∧ ∃ link ∈ line.properties,
      link.name = "ORDER" ∧ link.rules = [.subObject] ∧
        (line.properties.filter fun other => other.tag == .linkedToParent) = [link] := by
  intro schema
  have stored : ∃ line ∈ schema.entities, line.key = Demo.Sales.orderLine ∧
      ∃ link ∈ line.properties, link.name = "ORDER" ∧ link.rules = [.subObject] ∧
        link.tag = .linkedToParent := by
    decide +kernel
  obtain ⟨line, lineMem, key, link, linkMem, named, rules, tagged⟩ := stored
  have reached : schema.Reachable := (Reachable.start "sales").executeAll linesUnderOrder
  exact ⟨line, lineMem, key, link, linkMem, named, rules,
    (reached.rules_placed lineMem).1 link linkMem tagged (by simp [rules])⟩

end Schema

end EntitySurface
