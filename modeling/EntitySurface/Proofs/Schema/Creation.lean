import EntitySurface.Demo
import EntitySurface.Proofs.Derivation.Deletion
import EntitySurface.Proofs.Derivation.Inputs
import EntitySurface.Proofs.Schema.Finalized
import EntitySurface.Proofs.Schema.SubObjects

/-!
# Creation and parents

The arguments of creation were fixed for the stored object when the entity was finalized, the
arguments of parents for each link. Both follow the kinds and names of the active properties, so the
operations that refer to a parent agree on its argument.
-/

namespace EntitySurface

open EntitySurface.Derivation

namespace Entity

variable {entity : Entity} {link : Property} {parent : Argument} {operations : List Operation}

/-- The parent of a settled link is the one that the link brings to creation. -/
theorem Settled.parentArgument?_eq_parentObject? (settled : entity.Settled)
    (stored : link ∈ entity.properties) : link.parentArgument? = link.parentObject? := by
  rw [settled.parentArgument?_eq stored]
  unfold Property.parentArgument? Property.parentObject? Property.unresolved
  cases link.kind <;> rfl

theorem mem_parentLinks_of_parentObject? (active : link ∈ entity.activeProperties)
    (brought : link.parentObject? = some parent) : link ∈ entity.parentLinks := by
  apply List.mem_filter.mpr
  constructor
  · exact active
  · rcases Property.parentObject?_eq_some_iff.mp brought with ⟨key, kind, -⟩
    simp [Property.tag, kind, PropertyKind.tag]

/-- An active sub-object link is the one that deletion goes by. -/
theorem SoleSubObject.subObjectLink?_eq (sole : entity.SoleSubObject)
    (names : (entity.properties.map Property.name).Nodup) (active : link ∈ entity.activeProperties)
    (subObject : link.isSubObject = true) : entity.subObjectLink? = some link := by
  cases found : entity.subObjectLink? with
  | none => exact absurd subObject (List.find?_eq_none.mp found link active)
  | some other =>
      have stored := (mem_activeProperties_iff.mp active).1
      have otherStored := (mem_activeProperties_iff.mp (List.mem_of_find?_eq_some found)).1
      have tagged := tag_of_isSubObject (List.find?_some found)
      have same := sole link stored subObject other otherStored tagged
      rw [List.inj_on_of_nodup_map names otherStored stored same]

/-- A sub-object is deleted while its parent is shown. -/
theorem DeletionFamily.eq_of_subObjectLink? (family : entity.DeletionFamily operations)
    (found : entity.subObjectLink? = some link) (shown : link.parentArgument? = some parent) :
    operations = [entity.deletes "DeleteAndShowParent" [parent]] := by
  have subObject : entity.isSubObject = true := by simp [isSubObject, found]
  cases family with
  | subObject other otherShown =>
      rw [found] at other
      cases other
      rw [shown] at otherShown
      cases otherShown
      rfl
  | link independent | autolink independent | plain independent =>
      rw [subObject] at independent
      contradiction

end Entity

namespace Surface

variable {entity : Entity} {surface : Surface} {link : Property} {parent : Argument}

/-- Before creation, the arguments of creation are asked for. -/
theorem operation?_prepareStandardCreate
    (derived : derive DerivationRule.standard entity = .ok surface)
    (stored : entity.hasKind .storedObject = true) (unlinked : entity.isLink = false)
    (single : entity.isAutolink = false) :
    surface.operation? ("PrepareStandardCreate" ++ entity.pascalName) =
      some (entity.operation ("PrepareStandardCreate" ++ entity.pascalName)
        entity.creationArguments [entity.objectArgument] [.createNew]) := by
  have applies : DerivationRule.create.appliesTo entity = true := by
    simp [DerivationRule.appliesTo, stored, unlinked, single]
  exact operation?_of_derive derived (by decide) applies rfl List.mem_cons_self

/-- Each parent link contributes its change of parents. -/
theorem operation?_of_mem_parentChange
    (derived : derive DerivationRule.standard entity = .ok surface)
    (inLinks : link ∈ entity.parentLinks) {operation : Operation}
    (changes : .operation operation ∈ parentChange entity link) :
    surface.operation? operation.name = some operation := by
  have inRules : DerivationRule.parentLinks ∈ DerivationRule.standard := by decide
  have applies : DerivationRule.parentLinks.appliesTo entity = true :=
    Entity.hasKind_iff_exists_mem_propertiesOf.mpr ⟨link, inLinks⟩
  rcases exists_contributions_of_derive derived inRules applies with ⟨contributions, outcome⟩
  apply operation?_of_derive derived inRules applies outcome
  simp only [DerivationRule.contributions, parentChanges] at outcome
  split at outcome
  · contradiction
  · cases outcome
    exact List.mem_flatMap.mpr ⟨link, inLinks, changes⟩

/-- Deleting a sub-object with an identity shows its parent. -/
theorem operation?_deleteAndShowParent
    (derived : derive DerivationRule.standard entity = .ok surface)
    (identified : entity.hasKind .uniqueIdentified = true)
    (found : entity.subObjectLink? = some link) (shown : link.parentArgument? = some parent) :
    surface.operation? ("DeleteAndShowParent" ++ entity.pascalName) =
      some (entity.deletes "DeleteAndShowParent" [parent]) := by
  have inRules : DerivationRule.deletion ∈ DerivationRule.standard := by decide
  rcases exists_contributions_of_derive derived inRules identified with ⟨contributions, outcome⟩
  rcases deletionFamily_of_deletion outcome with ⟨operations, family, rfl⟩
  obtain rfl := family.eq_of_subObjectLink? found shown
  exact operation?_of_derive derived inRules identified outcome List.mem_cons_self

end Surface

namespace Schema.Reachable

variable {schema : Schema} {entity : Entity} {surface : Surface}

/-- Creation takes the state of the active lifecycle, if there is one, and then the parent of each
active parent link in the order of attachment, all under different names. Each of these parents is
the same argument wherever a parent is changed and where the deletion of a sub-object shows it. -/
theorem creation_agrees (reached : schema.Reachable) (finalized : schema.phase = .finalized)
    (mem : entity ∈ schema.entities)
    (derived : Surface.derive DerivationRule.standard entity = .ok surface) :
    (entity.hasKind .storedObject = true → entity.isLink = false → entity.isAutolink = false →
      ∃ prepare, surface.operation? ("PrepareStandardCreate" ++ entity.pascalName) = some prepare ∧
        prepare.inputs = entity.activeProperties.filterMap Property.stateArgument? ++
          entity.activeProperties.filterMap Property.parentObject? ∧
        (entity.activeProperties.filterMap Property.stateArgument?).length ≤ 1 ∧
        (prepare.inputs.map Argument.name).Nodup) ∧
    ∀ link ∈ entity.activeProperties, ∀ parent, link.parentObject? = some parent →
      (∃ change, surface.operation? ("ChangeParent" ++ entity.pascalName ++ "For" ++
          Text.pascalCase link.name) = some change ∧
        change.inputs = [entity.objectArgument, parent]) ∧
      (∃ update, surface.operation? ("MassUpdate" ++ entity.pascalName ++ "With" ++
          Text.pascalCase link.name) = some update ∧
        update.inputs = [entity.objectsArgument, parent]) ∧
      (link.isSubObject = true → entity.hasKind .uniqueIdentified = true →
        ∃ delete, surface.operation? ("DeleteAndShowParent" ++ entity.pascalName) = some delete ∧
          delete.outputs = [parent]) := by
  have settled := reached.settled finalized entity mem
  have wellFormed := reached.wellFormed.entities entity mem
  have single := wellFormed.hasAtMostOne_lifecycle
  have sole := reached.forall_entities Entity.soleSubObject_invariant entity mem
  constructor
  · intro stored unlinked unjoined
    have inputs : entity.creationArguments = entity.expectedArguments := by
      rw [settled.creationArguments_eq_expected single, if_pos stored]
    refine ⟨_, Surface.operation?_prepareStandardCreate derived stored unlinked unjoined, inputs,
      single.length_states_le, ?_⟩
    show (entity.creationArguments.map Argument.name).Nodup
    rw [inputs]
    exact wellFormed.nodup_expectedArguments
  · intro link active parent brought
    have stored := (Entity.mem_activeProperties_iff.mp active).1
    have inLinks := Entity.mem_parentLinks_of_parentObject? active brought
    have shown : link.parentArgument? = some parent := by
      rw [settled.parentArgument?_eq_parentObject? stored, brought]
    have changes : parentChange entity link =
        [.operation (entity.guardedOperation
            ("ChangeParent" ++ entity.pascalName ++ "For" ++ Text.pascalCase link.name)
            [entity.objectArgument, parent] [entity.objectArgument] [.modify]),
         .operation (entity.guardedOperation
            ("MassUpdate" ++ entity.pascalName ++ "With" ++ Text.pascalCase link.name)
            [entity.objectsArgument, parent] [entity.objectsArgument] [.modify])] := by
      rw [parentChange, shown]
    refine ⟨⟨_, Surface.operation?_of_mem_parentChange derived inLinks
      (changes ▸ List.mem_cons_self), rfl⟩, ⟨_, Surface.operation?_of_mem_parentChange derived
      inLinks (changes ▸ List.mem_cons_of_mem _ List.mem_cons_self), rfl⟩, ?_⟩
    intro subObject identified
    have found := sole.subObjectLink?_eq wellFormed.propertyNames active subObject
    exact ⟨_, Surface.operation?_deleteAndShowParent derived identified found shown, rfl⟩

/-- Order lines with their own states, whose parent link is attached before the stored object and
whose lifecycle after it. -/
def linesLinkedFirst : List Command :=
  Demo.Sales.categories ++ Demo.identified Demo.Sales.order "Order" "A customer order" ++
  [.entity "sales" "OrderLine" "Order Line",
   Demo.attach Demo.Sales.orderLine
     { name := "ORDER", kind := .linkedToParent Demo.Sales.order, rules := [.subObject] },
   Demo.attach Demo.Sales.orderLine (.ofKind .storedObject),
   Demo.attach Demo.Sales.orderLine (.ofKind (.lifecycle Demo.Sales.orderState)),
   Demo.attach Demo.Sales.orderLine (.ofKind .uniqueIdentified),
   .finish]

/-- Lines are created in a state and under an order, and deleting a line shows this order. -/
theorem creation_agrees_orderLines :
    let schema := (({ name := "sales" } : Schema).executeAll linesLinkedFirst).1
    let state := valueArgument "state" (.choice Demo.Sales.orderState false)
    let order : Argument := { name := "order_id", kind := .object Demo.Sales.order }
    schema.phase = .finalized ∧ ∃ line ∈ schema.entities, line.key = Demo.Sales.orderLine ∧
      ∃ surface, Surface.derive DerivationRule.standard line = .ok surface ∧
        (∃ prepare, surface.operation? "PrepareStandardCreateOrderLine" = some prepare ∧
          prepare.inputs = [state, order]) ∧
        (∃ update, surface.operation? "MassUpdateOrderLineWithOrder" = some update ∧
          update.inputs = [line.objectsArgument, order]) ∧
        ∃ delete, surface.operation? "DeleteAndShowParentOrderLine" = some delete ∧
          delete.outputs = [order] := by
  intro schema state order
  have finalized : schema.phase = .finalized := by decide +kernel
  have lines : ∃ line ∈ schema.entities, line.key = Demo.Sales.orderLine ∧
      line.hasKind .storedObject = true ∧ line.isLink = false ∧ line.isAutolink = false ∧
      line.hasKind .uniqueIdentified = true ∧ line.pascalName = "OrderLine" ∧
      line.activeProperties.filterMap Property.stateArgument? = [state] ∧
      line.activeProperties.filterMap Property.parentObject? = [order] ∧
      (∃ link ∈ line.activeProperties, link.parentObject? = some order ∧
        link.isSubObject = true ∧ Text.pascalCase link.name = "Order") ∧
      (Surface.derive DerivationRule.standard line).toOption.isSome = true := by
    decide +kernel
  rcases lines with ⟨line, mem, key, stored, unlinked, single, identified, name, states, parents,
    ⟨link, active, brought, subObject, linkName⟩, succeeds⟩
  rcases exists_eq_ok_of_isSome succeeds with ⟨surface, derived⟩
  have reached : schema.Reachable := (Reachable.start "sales").executeAll linesLinkedFirst
  have agrees := reached.creation_agrees finalized mem derived
  rw [name] at agrees
  rcases agrees.1 stored unlinked single with ⟨prepare, found, inputs, -, -⟩
  rcases agrees.2 link active order brought with ⟨-, updated, deleted⟩
  rw [linkName] at updated
  rw [states, parents] at inputs
  exact ⟨finalized, line, mem, key, surface, derived, ⟨prepare, found, inputs⟩, updated,
    deleted subObject identified⟩

end Schema.Reachable

end EntitySurface
