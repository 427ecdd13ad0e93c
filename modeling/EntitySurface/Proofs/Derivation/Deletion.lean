import EntitySurface.Demo
import EntitySurface.Proofs.Derivation.Faults
import EntitySurface.Proofs.Derivation.Groups
import EntitySurface.Proofs.Derivation.Names
import EntitySurface.Proofs.Surface.Derived

/-!
# Deletion and full access

An entity is deleted in the one way that fits its structural role, and nothing else that is derived
for it asks for full access. So the group of full access lists the deletions of this one role.
-/

namespace EntitySurface

open EntitySurface.Derivation

namespace Entity

/-- A deletion of objects of the entity. -/
def deletes (entity : Entity) (start : String) (outputs : List Argument) : Operation :=
  entity.guardedOperation (start ++ entity.pascalName) [entity.objectArgument] outputs [.full]

/-- The deletions that belong to the structural role of an entity, if it plays at most one. -/
inductive DeletionFamily (entity : Entity) : List Operation → Prop where
  | subObject {link : Property} {parent : Argument} (found : entity.subObjectLink? = some link)
      (shown : link.parentArgument? = some parent) (unlinked : entity.isLink = false)
      (single : entity.isAutolink = false) :
      DeletionFamily entity [entity.deletes "DeleteAndShowParent" [parent]]
  | link {left right : EntityKey} (independent : entity.isSubObject = false)
      (linked : entity.isLink = true) (single : entity.isAutolink = false) :
      DeletionFamily entity
        [entity.deletes "DeleteLinkAndShowLeft" [leftArgument left],
          entity.deletes "DeleteLinkAndShowRight" [rightArgument right]]
  | autolink {target : EntityKey} (independent : entity.isSubObject = false)
      (unlinked : entity.isLink = false) (joined : entity.isAutolink = true) :
      DeletionFamily entity [entity.deletes "DeleteAutolinkAndShowObject" [target.objectArgument]]
  | plain (independent : entity.isSubObject = false) (unlinked : entity.isLink = false)
      (single : entity.isAutolink = false) : DeletionFamily entity [entity.deletes "Delete" []]

end Entity

/-! ## The rule -/

namespace PropertyKind

variable {kind : PropertyKind}

theorem tag_eq_linkObject_iff :
    kind.tag = .linkObject ↔ ∃ left right, kind = .linkObject left right := by
  cases kind <;> simp [tag]

theorem tag_eq_autolinkObject_iff :
    kind.tag = .autolinkObject ↔ ∃ target, kind = .autolinkObject target := by
  cases kind <;> simp [tag]

end PropertyKind

namespace Derivation

variable {entity : Entity}

theorem length_structuralRoles (entity : Entity) : (structuralRoles entity).length =
    [entity.isSubObject, entity.isLink, entity.isAutolink].count true := by
  unfold structuralRoles
  cases entity.isSubObject <;> cases entity.isLink <;> cases entity.isAutolink <;> rfl

/-- Deletion succeeds for a single role, with the family of this role. -/
theorem deletionFamily_of_deletion {contributed : List Contribution}
    (outcome : deletion entity = .ok contributed) :
    ∃ operations, entity.DeletionFamily operations ∧ contributed = operations.map .operation := by
  unfold deletion at outcome
  split at outcome
  · contradiction
  · next single =>
    rw [length_structuralRoles] at single
    split at outcome
    · next link found =>
      have subObject : entity.isSubObject = true := by simp [Entity.isSubObject, found]
      rcases exists_parentArgument? (List.find?_some found) with ⟨parent, shown⟩
      rw [shown] at outcome
      cases outcome
      refine ⟨_, .subObject found shown ?_ ?_, rfl⟩
      · cases linked : entity.isLink <;> simp_all
      · cases joined : entity.isAutolink <;> simp_all
    · next absent =>
      have independent : entity.isSubObject = false := by simp [Entity.isSubObject, absent]
      cases linked : entity.isLink with
      | true =>
          have unjoined : entity.isAutolink = false := by
            cases joined : entity.isAutolink <;> simp_all
          rcases Entity.exists_firstOf? linked with ⟨property, -, found, tagged⟩
          rcases PropertyKind.tag_eq_linkObject_iff.mp tagged with ⟨left, right, kind⟩
          rw [found, Option.map_some, kind] at outcome
          cases outcome
          exact ⟨_, .link independent linked unjoined, rfl⟩
      | false =>
          rw [Entity.firstOf?_eq_none linked] at outcome
          cases joined : entity.isAutolink with
          | true =>
              rcases Entity.exists_firstOf? joined with ⟨property, -, found, tagged⟩
              rcases PropertyKind.tag_eq_autolinkObject_iff.mp tagged with ⟨target, kind⟩
              rw [found, Option.map_some, kind] at outcome
              cases outcome
              exact ⟨_, .autolink independent linked joined, rfl⟩
          | false =>
              rw [Entity.firstOf?_eq_none joined] at outcome
              cases outcome
              exact ⟨_, .plain independent linked joined, rfl⟩

end Derivation

/-! ## The group -/

namespace Surface

variable {entity : Entity} {surface : Surface} {earlier later rules : List DerivationRule}
  {rule : DerivationRule} {kind : GroupKind}

theorem contributed_append (entity : Entity) (first second : List DerivationRule) :
    contributed (first ++ second) entity =
      contributed first entity ++ contributed second entity := by
  simp [contributed]

/-- The contributed operations that ask for a group. -/
def asking (kind : GroupKind) (contributions : List Contribution) : List Operation :=
  (contributions.filterMap Contribution.operation?).filter fun operation =>
    operation.groups.contains kind

/-- Rules do not ask for groups that are not theirs. -/
theorem asking_contributed_eq_nil (foreign : ∀ rule ∈ rules, kind ∉ rule.groups) :
    asking kind (contributed rules entity) = [] := by
  unfold asking
  rw [List.filter_eq_nil_iff]
  intro operation offered asks
  rcases List.mem_filterMap.mp offered with ⟨contribution, mem, isOperation⟩
  obtain rfl := Contribution.operation?_eq_some_iff.mp isOperation
  rcases mem_contributed_iff.mp mem with ⟨rule, inRules, -, contributions, outcome, among⟩
  have within := rule.staysWithin_groups outcome _ among
  exact foreign rule inRules (within (List.contains_iff_mem.mp asks))

/-- A derived surface leaves no contributed operation out, so those that ask for a group are all
there, in the order of their contribution. -/
theorem filter_operations_eq_asking (derived : derive rules entity = .ok surface)
    (distinct : (asking kind (contributed rules entity)).Nodup) :
    (surface.operations.filter fun operation => operation.groups.contains kind) =
      asking kind (contributed rules entity) := by
  have order := (records_of_derive derived).operations.order.filter fun operation =>
    operation.groups.contains kind
  have all : asking kind (contributed rules entity) ⊆
      surface.operations.filter fun operation => operation.groups.contains kind := by
    intro operation mem
    rcases List.mem_filter.mp mem with ⟨offered, asks⟩
    rw [List.mem_filter]
    constructor
    · rcases List.mem_filterMap.mp offered with ⟨contribution, inContributed, isOperation⟩
      obtain rfl := Contribution.operation?_eq_some_iff.mp isOperation
      exact (mem_operations_iff derived).mpr (mem_contributed_iff.mp inContributed)
    · exact asks
  exact order.eq_of_length_le (List.subperm_of_subset distinct all).length_le

theorem asking_append (kind : GroupKind) (first second : List Contribution) :
    asking kind (first ++ second) = asking kind first ++ asking kind second := by
  simp [asking]

/-- A group that only one rule fills lists the operations of this rule that ask for it. -/
theorem filter_operations_eq_of_sole
    (derived : derive (earlier ++ rule :: later) entity = .ok surface)
    (before : ∀ other ∈ earlier, kind ∉ other.groups)
    (after : ∀ other ∈ later, kind ∉ other.groups)
    (distinct : (asking kind (contributed [rule] entity)).Nodup) :
    (surface.operations.filter fun operation => operation.groups.contains kind) =
      asking kind (contributed [rule] entity) := by
  have same : asking kind (contributed (earlier ++ rule :: later) entity) =
      asking kind (contributed [rule] entity) := by
    rw [← List.singleton_append, contributed_append, contributed_append, asking_append,
      asking_append, asking_contributed_eq_nil before, asking_contributed_eq_nil after,
      List.nil_append, List.append_nil]
  rw [← same] at distinct ⊢
  exact filter_operations_eq_asking derived distinct

end Surface

/-! ## Full access -/

namespace DerivationRule

/-- The rules that run before deletion. -/
def beforeDeletion : List DerivationRule :=
  standard.takeWhile fun rule => rule ≠ .deletion

/-- The rules that run after deletion. -/
def afterDeletion : List DerivationRule :=
  (standard.dropWhile fun rule => rule ≠ .deletion).tail

theorem standard_eq : standard = beforeDeletion ++ .deletion :: afterDeletion := by
  decide

end DerivationRule

namespace Entity

variable {entity : Entity} {operations : List Operation} {surface : Surface}

theorem DeletionFamily.asking_eq (family : entity.DeletionFamily operations) :
    Surface.asking .full (operations.map Contribution.operation) = operations := by
  have offered : (operations.map Contribution.operation).filterMap Contribution.operation? =
      operations := by
    simp [List.filterMap_map, Function.comp_def, Contribution.operation?]
  unfold Surface.asking
  rw [offered, List.filter_eq_self]
  cases family <;> simp [deletes]

theorem DeletionFamily.nodup (family : entity.DeletionFamily operations) : operations.Nodup := by
  cases family with
  | link =>
      apply List.Nodup.of_map Operation.name
      simp [deletes]
  | subObject | autolink | plain => exact List.nodup_singleton _

/-- Full access to an entity without identity covers nothing. -/
theorem filter_full_eq_nil (derived : Surface.derive DerivationRule.standard entity = .ok surface)
    (unidentified : entity.hasKind .uniqueIdentified = false) :
    (surface.operations.filter fun operation => operation.groups.contains .full) = [] := by
  have nothing : Surface.contributed [.deletion] entity = [] := by
    simp [Surface.contributed, DerivationRule.appliesTo, unidentified]
  rw [DerivationRule.standard_eq] at derived
  rw [Surface.filter_operations_eq_of_sole derived (by decide) (by decide)] <;> rw [nothing]
  · rfl
  · exact List.nodup_nil

/-- Full access to an entity with an identity covers the deletions of its role. -/
theorem deletionFamily_filter_full
    (derived : Surface.derive DerivationRule.standard entity = .ok surface)
    (identified : entity.hasKind .uniqueIdentified = true) :
    entity.DeletionFamily
      (surface.operations.filter fun operation => operation.groups.contains .full) := by
  have inRules : DerivationRule.deletion ∈ DerivationRule.standard := by decide
  rcases Surface.exists_contributions_of_derive derived inRules identified with
    ⟨contributions, outcome⟩
  rcases deletionFamily_of_deletion outcome with ⟨operations, family, rfl⟩
  have own : Surface.asking .full (Surface.contributed [.deletion] entity) = operations := by
    have contributed : Surface.contributed [.deletion] entity =
        operations.map Contribution.operation := by
      simp [Surface.contributed, DerivationRule.appliesTo, identified, outcome, Except.toOption]
    rw [contributed, family.asking_eq]
  rw [DerivationRule.standard_eq] at derived
  rw [Surface.filter_operations_eq_of_sole derived (by decide) (by decide)] <;> rw [own]
  · exact family
  · exact family.nodup

end Entity

namespace Surface

variable {entity : Entity}

/-- If the rules before some rule get on and that rule fails, then all of them fail like it. -/
theorem derive_eq_error_of_contributions {earlier later : List DerivationRule}
    {rule : DerivationRule} {before : Surface} {fault : Fault}
    (derived : derive earlier entity = .ok before) (applies : rule.appliesTo entity = true)
    (failed : rule.contributions entity = .error fault) :
    derive (earlier ++ rule :: later) entity = .error fault := by
  unfold derive at derived ⊢
  split at derived
  · next finalized =>
    rw [if_pos finalized, applyRules_append, derived]
    simp [applyRules, applies, failed]
  · contradiction

/-- When a surface is derived, the group of full access lists exactly the deletions of the one
structural role of the entity, in this order, and nothing if the entity has no identity. With an
identity and more than one role, derivation fails for the roles as soon as the rules before deletion
get on. -/
theorem fullAccess_eq_deletions (entity : Entity) :
    (∀ surface, derive DerivationRule.standard entity = .ok surface →
      (entity.hasKind .uniqueIdentified = false → surface.groups.operations .full = []) ∧
      (entity.hasKind .uniqueIdentified = true →
        (entity.isSubObject = true →
          surface.groups.operations .full = ["DeleteAndShowParent" ++ entity.pascalName]) ∧
        (entity.isLink = true →
          surface.groups.operations .full =
            ["DeleteLinkAndShowLeft" ++ entity.pascalName,
              "DeleteLinkAndShowRight" ++ entity.pascalName]) ∧
        (entity.isAutolink = true →
          surface.groups.operations .full =
            ["DeleteAutolinkAndShowObject" ++ entity.pascalName]) ∧
        (entity.isSubObject = false → entity.isLink = false → entity.isAutolink = false →
          surface.groups.operations .full = ["Delete" ++ entity.pascalName]))) ∧
    (entity.hasKind .uniqueIdentified = true →
      1 < [entity.isSubObject, entity.isLink, entity.isAutolink].count true →
      ∀ earlier later, DerivationRule.standard = earlier ++ .deletion :: later →
        ∀ before, derive earlier entity = .ok before →
          derive DerivationRule.standard entity =
            .error (.exclusiveFlags entity.key (structuralRoles entity))) := by
  constructor
  · intro surface derived
    rw [operations_group_of_derive derived]
    constructor
    · intro unidentified
      rw [Entity.filter_full_eq_nil derived unidentified]
      rfl
    · intro identified
      have family := Entity.deletionFamily_filter_full derived identified
      generalize (surface.operations.filter fun operation =>
        operation.groups.contains .full) = operations at family ⊢
      cases family with
      | subObject found shown unlinked single =>
          have subObject : entity.isSubObject = true := by simp [Entity.isSubObject, found]
          simp [subObject, unlinked, single, Entity.deletes]
      | link independent linked single =>
          simp [independent, linked, single, Entity.deletes]
      | autolink independent unlinked joined =>
          simp [independent, unlinked, joined, Entity.deletes]
      | plain independent unlinked single =>
          simp [independent, unlinked, single, Entity.deletes]
  · intro identified several earlier later split before derived
    have applies : DerivationRule.deletion.appliesTo entity = true := identified
    rw [split]
    apply derive_eq_error_of_contributions derived applies
    rw [← length_structuralRoles] at several
    show deletion entity = _
    unfold deletion
    rw [if_pos several]

/-- Orders with lines and with links to products. The links are objects under the order as well. -/
def linkedOrders : List Command :=
  Demo.identified Demo.Sales.order "Order" "A customer order" ++ Demo.Sales.orderLines ++
  Demo.identified Demo.Sales.product "Product" "A sellable article" ++
  Demo.identified Demo.Sales.orderProductLink "Ordered Product" "Product of an order" ++
  [Demo.attach Demo.Sales.orderProductLink
     (.ofKind (.linkObject Demo.Sales.order Demo.Sales.product)),
   Demo.attach Demo.Sales.orderProductLink
     { name := "ORDER", kind := .linkedToParent Demo.Sales.order, rules := [.subObject] },
   .finish]

/-- Lines are deleted under their order, and links have no single way to be deleted. -/
theorem fullAccess_eq_deletions_linkedOrders :
    let schema := (({ name := "sales" } : Schema).executeAll linkedOrders).1
    schema.phase = .finalized ∧
    (∃ line ∈ schema.entities, ∃ surface, derive DerivationRule.standard line = .ok surface ∧
      surface.groups.operations .full = ["DeleteAndShowParentOrderLine"]) ∧
    ∃ link ∈ schema.entities, derive DerivationRule.standard link =
      .error (.exclusiveFlags Demo.Sales.orderProductLink [.subObject, .link]) := by
  intro schema
  have lines : ∃ line ∈ schema.entities, line.hasKind .uniqueIdentified = true ∧
      line.isSubObject = true ∧ line.pascalName = "OrderLine" ∧
      (derive DerivationRule.standard line).toOption.isSome = true := by
    decide +kernel
  have links : ∃ link ∈ schema.entities, link.key = Demo.Sales.orderProductLink ∧
      link.hasKind .uniqueIdentified = true ∧ structuralRoles link = [.subObject, .link] ∧
      1 < [link.isSubObject, link.isLink, link.isAutolink].count true ∧
      (derive DerivationRule.beforeDeletion link).toOption.isSome = true := by
    decide +kernel
  refine ⟨by decide +kernel, ?_, ?_⟩
  · rcases lines with ⟨line, mem, identified, subObject, name, succeeds⟩
    rcases exists_eq_ok_of_isSome succeeds with ⟨surface, derived⟩
    have listed := (((fullAccess_eq_deletions line).1 surface derived).2 identified).1 subObject
    rw [name] at listed
    exact ⟨line, mem, surface, derived, listed⟩
  · rcases links with ⟨link, mem, key, identified, roles, several, succeeds⟩
    rcases exists_eq_ok_of_isSome succeeds with ⟨before, derived⟩
    have refused := (fullAccess_eq_deletions link).2 identified several _ _
      DerivationRule.standard_eq before derived
    rw [key, roles] at refused
    exact ⟨link, mem, refused⟩

end Surface

end EntitySurface
