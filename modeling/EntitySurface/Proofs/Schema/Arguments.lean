import EntitySurface.Demo
import EntitySurface.Proofs.Derivation.Inputs
import EntitySurface.Proofs.Schema.Finalized
import EntitySurface.Proofs.Surface.Derived
import EntitySurface.Validation.Rule

/-!
# Repeated arguments

Nothing keeps an entity from being named like an input that is derived for it. Then an operation
takes two inputs of one name, and this is the only way in which it can come to do so.
-/

namespace EntitySurface.Schema.Reachable

variable {schema : Schema} {entity : Entity} {surface : Surface}

/-- The operations of a derived surface take inputs with different names, unless the entity bears
the name of an input that some rule puts beside its objects: a state, a date, a number, a file, or a
parent. -/
theorem inputs_distinct_iff (reached : schema.Reachable) (finalized : schema.phase = .finalized)
    (mem : entity ∈ schema.entities)
    (derived : Surface.derive DerivationRule.standard entity = .ok surface) :
    (∀ operation ∈ surface.operations, (operation.inputs.map Argument.name).Nodup) ↔
      ∀ rule ∈ DerivationRule.standard, rule.appliesTo entity = true →
        entity.moduleName ∉ rule.besideObject entity := by
  have settled := reached.settled finalized entity mem
  have wellFormed := reached.wellFormed.entities entity mem
  constructor
  · intro distinct rule inRules applies
    obtain ⟨contributed, outcome⟩ :=
      Surface.exists_contributions_of_derive derived inRules applies
    rw [← DerivationRule.distinctInputs_iff settled wellFormed applies outcome]
    intro contribution among
    cases contribution with
    | operation operation =>
        exact distinct operation ((Surface.mem_operations_iff derived).mpr
          ⟨rule, inRules, applies, contributed, outcome, among⟩)
    | page | menuEntry | searchPlan => trivial
  · intro free operation inSurface
    obtain ⟨rule, inRules, applies, contributed, outcome, among⟩ :=
      (Surface.mem_operations_iff derived).mp inSurface
    exact (DerivationRule.distinctInputs_iff settled wellFormed applies outcome).mpr
      (free rule inRules applies) _ among

/-- Invoices of customers. -/
def numberedInvoices : List Command :=
  Demo.Sales.categories ++ Demo.Sales.customers ++ Demo.Sales.invoices ++ [.finish]

/-- No operation of the invoices takes two inputs of one name. -/
theorem inputs_distinct_invoices :
    let schema := (({ name := "sales" } : Schema).executeAll numberedInvoices).1
    ∃ entity ∈ schema.entities, entity.key = Demo.Sales.invoice ∧
      ∃ surface, Surface.derive DerivationRule.standard entity = .ok surface ∧
        ∀ operation ∈ surface.operations, (operation.inputs.map Argument.name).Nodup := by
  intro schema
  have finalized : schema.phase = .finalized := by decide +kernel
  have derivable : ∃ entity ∈ schema.entities, entity.key = Demo.Sales.invoice ∧
      (Surface.derive DerivationRule.standard entity).toOption.isSome = true ∧
      ∀ rule ∈ DerivationRule.standard, rule.appliesTo entity = true →
        entity.moduleName ∉ rule.besideObject entity := by
    decide +kernel
  obtain ⟨entity, mem, key, succeeds, free⟩ := derivable
  obtain ⟨surface, derived⟩ := exists_eq_ok_of_isSome succeeds
  have reached : schema.Reachable := (Reachable.start "sales").executeAll numberedInvoices
  exact ⟨entity, mem, key, surface, derived,
    (reached.inputs_distinct_iff finalized mem derived).mpr free⟩

/-- Images with the content of an image. -/
def storedImages : List Command :=
  [.entity "sales" "Image" "Image",
   Demo.attach ⟨"sales", "Image"⟩ (.ofKind .storedObject),
   Demo.attach ⟨"sales", "Image"⟩ (.ofKind .uniqueIdentified),
   Demo.attach ⟨"sales", "Image"⟩ (.ofKind .imageContent),
   .finish]

/-- Setting the image of an image takes two inputs of one name. -/
theorem inputs_repeated_images :
    let schema := (({ name := "sales" } : Schema).executeAll storedImages).1
    schema.Reachable ∧ schema.phase = .finalized ∧
      (schema.validate ValidationRule.standard).isValid = true ∧
      ∃ entity ∈ schema.entities, ∃ surface,
        Surface.derive DerivationRule.standard entity = .ok surface ∧
          ∃ operation ∈ surface.operations, operation.name = "SetImageImage" ∧
            ¬(operation.inputs.map Argument.name).Nodup := by
  intro schema
  have found : ∃ entity ∈ schema.entities,
      (Surface.derive DerivationRule.standard entity).toOption.any (fun surface =>
        surface.operations.any fun operation => operation.name == "SetImageImage" &&
          !decide (operation.inputs.map Argument.name).Nodup) = true := by
    decide +kernel
  obtain ⟨entity, mem, repeated⟩ := found
  refine ⟨(Reachable.start "sales").executeAll storedImages, by decide +kernel, by decide +kernel,
    entity, mem, ?_⟩
  cases derived : Surface.derive DerivationRule.standard entity with
  | error fault => simp [derived, Except.toOption] at repeated
  | ok surface => exact ⟨surface, rfl, by simpa [derived, Except.toOption] using repeated⟩

end EntitySurface.Schema.Reachable
