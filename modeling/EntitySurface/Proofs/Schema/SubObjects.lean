import EntitySurface.Derivation.Relations
import EntitySurface.Proofs.Entity.Active
import EntitySurface.Proofs.Schema.Invariant

/-!
# Sub-objects

A parent link becomes a sub-object link when it is stored with the sub-object rule or gets it later.
Either way the entity has no other parent link then, and takes no other one afterwards. Legacy links
count as well, although nothing is derived from them.
-/

namespace EntitySurface

/-- What of a property decides whether it is a parent link and a sub-object link. -/
def Property.parenthood (property : Property) : String × PropertyTag × Bool :=
  (property.name, property.tag, property.isSubObject)

namespace Entity

/-- A sub-object link is the only parent link that is stored. Links are compared by their names,
since a rule may be added to one of them. -/
def SoleSubObject (entity : Entity) : Prop :=
  ∀ link ∈ entity.properties, link.isSubObject = true →
    ∀ other ∈ entity.properties, other.tag = .linkedToParent → other.name = link.name

variable {entity grown : Entity} {property : Property}

theorem tag_of_isSubObject (subObject : property.isSubObject = true) :
    property.tag = .linkedToParent := by
  simp only [Property.isSubObject, Bool.and_eq_true, beq_iff_eq] at subObject
  exact subObject.1

/-! ## What the checks of additions say -/

/-- A parent link is refused beside a sub-object link, and a sub-object link beside any other. -/
theorem checkParentLink_eq_ok_iff :
    entity.checkParentLink property = .ok () ↔
      (property.tag = .linkedToParent →
        ∀ link ∈ entity.properties, link.isSubObject = false) ∧
      (property.isSubObject = true →
        ∀ link ∈ entity.properties, link.tag ≠ .linkedToParent) := by
  unfold checkParentLink
  by_cases tagged : property.tag = .linkedToParent
  · have noSubObject_iff : (entity.properties.filter fun other =>
          other.tag == .linkedToParent).find? Property.isSubObject = none ↔
        ∀ link ∈ entity.properties, link.isSubObject = false := by
      simp only [List.find?_eq_none, List.mem_filter, beq_iff_eq, Bool.not_eq_true]
      constructor
      · intro noSubObject link mem
        by_contra subObject
        rw [Bool.not_eq_false] at subObject
        rw [noSubObject link ⟨mem, tag_of_isSubObject subObject⟩] at subObject
        contradiction
      · exact fun noSubObject link mem => noSubObject link mem.1
    have noLink_iff : (entity.properties.filter fun other =>
          other.tag == .linkedToParent).head? = none ↔
        ∀ link ∈ entity.properties, link.tag ≠ .linkedToParent := by
      simp
    rw [← noSubObject_iff, ← noLink_iff]
    simp only [tagged, bne_self_eq_false, Bool.false_eq_true, if_false, true_implies]
    cases List.find? Property.isSubObject (entity.properties.filter fun other =>
        other.tag == .linkedToParent) with
    | some existing => simp
    | none =>
        cases property.isSubObject <;>
          cases List.head? (entity.properties.filter fun other =>
            other.tag == .linkedToParent) <;> simp
  · have noSubObject : property.isSubObject = false := by
      simp [Property.isSubObject, tagged]
    simp [tagged, noSubObject]

/-! ## The invariant -/

/-- Names, kinds and sub-object rules of parent links are all that counts. -/
theorem SoleSubObject.of_properties (sole : entity.SoleSubObject) {properties : List Property}
    (same : properties.map Property.parenthood = entity.properties.map Property.parenthood) :
    { entity with properties }.SoleSubObject := by
  have former : ∀ property ∈ properties, ∃ old ∈ entity.properties,
      old.parenthood = property.parenthood := by
    intro property mem
    exact List.mem_map.mp (same ▸ List.mem_map_of_mem mem)
  intro link linkMem subObject other otherMem tagged
  obtain ⟨oldLink, oldLinkMem, sameLink⟩ := former link linkMem
  obtain ⟨oldOther, oldOtherMem, sameOther⟩ := former other otherMem
  simp only [Property.parenthood, Prod.mk.injEq] at sameLink sameOther
  rw [← sameLink.1, ← sameOther.1]
  exact sole oldLink oldLinkMem (sameLink.2.2.trans subObject) oldOther oldOtherMem
    (sameOther.2.1.trans tagged)

theorem SoleSubObject.withProperty (sole : entity.SoleSubObject)
    (checked : entity.checkParentLink property = .ok ()) :
    (entity.withProperty property).SoleSubObject := by
  obtain ⟨besideLink, besideSubObject⟩ := checkParentLink_eq_ok_iff.mp checked
  intro link linkMem subObject other otherMem tagged
  rcases List.mem_append.mp linkMem with oldLink | newLink <;>
    rcases List.mem_append.mp otherMem with oldOther | newOther
  · exact sole link oldLink subObject other oldOther tagged
  · obtain rfl := List.mem_singleton.mp newOther
    rw [besideLink tagged link oldLink] at subObject
    contradiction
  · obtain rfl := List.mem_singleton.mp newLink
    exact absurd tagged (besideSubObject subObject other oldOther)
  · rw [List.mem_singleton.mp newLink, List.mem_singleton.mp newOther]

/-- A rule that makes a sub-object link is only added to the one parent link of the entity. -/
theorem SoleSubObject.addRule (sole : entity.SoleSubObject) {name : String} {rule : BusinessRule}
    (added : entity.addRule name rule = .ok grown) : grown.SoleSubObject := by
  obtain ⟨property, found, accepted, outcome⟩ := addRule_eq_ok_iff.mp added
  by_cases isSubObject : rule = .subObject
  · rw [if_pos isSubObject] at outcome
    split at outcome
    · exact outcome ▸ sole
    · obtain ⟨alone, rfl⟩ := outcome
      have kept : (entity.withRule name rule).properties.map (fun link => (link.name, link.tag)) =
          entity.properties.map fun link => (link.name, link.tag) := by
        refine map_modifyProperty ?_ entity name
        exact fun _ => rfl
      have named : ∀ link ∈ (entity.withRule name rule).properties,
          link.tag = .linkedToParent → link.name = name := by
        intro link mem tagged
        obtain ⟨old, oldMem, same⟩ := List.mem_map.mp
          (kept ▸ List.mem_map_of_mem mem : (link.name, link.tag) ∈ _)
        obtain ⟨sameName, sameTag⟩ := Prod.mk.inj same
        rw [← sameName]
        exact alone old oldMem (sameTag.trans tagged)
      intro link linkMem subObject other otherMem tagged
      rw [named link linkMem (tag_of_isSubObject subObject), named other otherMem tagged]
  · rw [if_neg isSubObject] at outcome
    rw [← outcome]
    apply sole.of_properties
    refine map_modifyProperty ?_ entity name
    intro property
    simp [Property.parenthood, Property.isSubObject, Property.tag, Ne.symm isSubObject]

/-- Sub-object links stay the only parent links throughout a run. -/
theorem soleSubObject_invariant : Entity.Invariant SoleSubObject where
  declared key label := fun link mem => absurd mem List.not_mem_nil
  addition := by
    intro schema entity grown wellFormed added sole
    cases added with
    | description | field => exact sole
    | property target identifier rules bindings unowned added shown =>
        exact sole.withProperty (addProperty_eq_ok_iff.mp added).2.2.1
    | rule found fits added => exact sole.addRule added
    | hook added =>
        rw [← (addHook_eq_ok_iff.mp added).2]
        apply sole.of_properties
        refine map_modifyProperty ?_ entity _
        exact fun _ => rfl
    | widget resolved added =>
        rw [addWidget_ok_eq added]
        exact sole
    | tab identifier added =>
        rw [← (addTab_eq_ok_iff.mp added).2.2]
        exact sole
    | loaderAlias added =>
        rw [← (addAlias_eq_ok_iff.mp added).2]
        exact sole
  finalize := by
    intro entity sole
    obtain ⟨finalized, same⟩ := entity.exists_finalize_eq
    rw [same]
    exact sole.of_properties
      (Property.map_eq_map_of_unresolved (fun _ => rfl) entity.map_unresolved_settling)

/-! ## Changing parents -/

/-- The parents of an entity can be changed link by link: no two of its links are sub-object
links. -/
theorem SoleSubObject.parentChanges_eq (sole : entity.SoleSubObject)
    (names : (entity.properties.map Property.name).Nodup) :
    Derivation.parentChanges entity =
      .ok (entity.parentLinks.flatMap (Derivation.parentChange entity)) := by
  have sublist : (entity.parentLinks.filter Property.isSubObject).Sublist entity.properties :=
    List.filter_sublist.trans (List.filter_sublist.trans List.filter_sublist)
  unfold Derivation.parentChanges
  split
  · next first second rest subObjects =>
    have stored : ∀ link ∈ first :: second :: rest,
        link ∈ entity.properties ∧ link.isSubObject = true := by
      rw [← subObjects]
      intro link mem
      exact ⟨sublist.subset mem, (List.mem_filter.mp mem).2⟩
    have distinct : ((first :: second :: rest).map Property.name).Nodup :=
      subObjects ▸ (sublist.map Property.name).nodup names
    obtain ⟨firstMem, firstSub⟩ := stored first List.mem_cons_self
    obtain ⟨secondMem, secondSub⟩ := stored second (by simp)
    have same : second.name = first.name :=
      sole first firstMem firstSub second secondMem (tag_of_isSubObject secondSub)
    simp [same] at distinct
  · rfl

end Entity

end EntitySurface
