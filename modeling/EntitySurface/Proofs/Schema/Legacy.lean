import EntitySurface.Demo
import EntitySurface.Proofs.Derivation.Legacy
import EntitySurface.Proofs.Entity.LegacyHooks
import EntitySurface.Proofs.Schema.Finalized

/-!
# Legacy properties of finalized schemas

Legacy properties are meant to contribute nothing to the surface of their entity. In a finalized
schema this holds with two exceptions: renumbering by hand takes the parent of a legacy parent link
that scopes the numbering, and a built-in hook around a method of a legacy property is in no chain.
-/

namespace EntitySurface

namespace Schema

open DerivationRule Entity Surface

variable {schema : Schema}

namespace Reachable

/-- Deleting the legacy properties of an entity changes its derived surface exactly when it is
renumbered within a legacy scope, and its hook chains exactly when an active property has a built-in
hook around a method of a legacy property. -/
theorem withoutLegacy_unchanged_iff (reached : schema.Reachable)
    (finalized : schema.phase = .finalized) {entity reduced : Entity}
    (mem : entity ∈ schema.entities) (free : entity.NoLegacyWidget)
    (done : entity.withoutLegacy.finalize = (reduced, none)) :
    (derive standard reduced = derive standard entity ↔
      ¬ entity.LegacyScoped ∨ ∃ fault, derive standard reduced = .error fault) ∧
    (reduced.hookChains = entity.hookChains ↔ ¬ entity.LegacyHooked) := by
  have wellFormed := reached.wellFormed.entities entity mem
  have settled := reached.settled finalized entity mem
  have reduces := reduces_of_finalize done
  exact ⟨reduces.derive_eq_iff wellFormed settled free (by decide),
    reduces.hookChains_eq_iff wellFormed.propertyNames settled⟩

/-- Invoices that were once kept elsewhere and belonged to customers. -/
def formerInvoices : List Command :=
  [.entity "sales" "Customer" "Customer",
   .entity "sales" "Invoice" "Invoice",
   .property Demo.Sales.invoice { name := "ARCHIVED", kind := .storedObject } .legacy,
   .property Demo.Sales.invoice (.ofKind (.linkedToParent Demo.Sales.customer)) .legacy,
   Demo.attach Demo.Sales.invoice (.ofKind .storedObject),
   Demo.attach Demo.Sales.invoice (.ofKind .uniqueIdentified),
   Demo.attach Demo.Sales.invoice (.ofKind .numbered),
   Demo.attach Demo.Sales.invoice (.ofKind .creationLog),
   .finish]

/-- Invoices are renumbered within the customers that they no longer belong to, and the log of their
creation is not kept. -/
theorem withoutLegacy_changed_formerInvoices :
    let schema := (({ name := "sales" } : Schema).executeAll formerInvoices).1
    schema.phase = .finalized ∧ ∃ entity ∈ schema.entities,
      entity.NoLegacyWidget ∧ entity.withoutLegacy.finalize.2 = none ∧
        entity.LegacyScoped ∧ entity.LegacyHooked := by
  intro schema
  have finalized : schema.phase = .finalized := by decide +kernel
  let inputs := fun outcome : Except Fault Surface => outcome.toOption.map
    fun surface => surface.operations.map Operation.inputs
  have changed : ∃ entity ∈ schema.entities, entity.NoLegacyWidget ∧
      entity.withoutLegacy.finalize.2 = none ∧
      inputs (derive standard entity.withoutLegacy.finalize.1) ≠ inputs (derive standard entity) ∧
      entity.withoutLegacy.finalize.1.hookChains ≠ entity.hookChains := by
    decide +kernel
  obtain ⟨entity, mem, free, done, surfaces, chains⟩ := changed
  have reached := (Reachable.start "sales").executeAll formerInvoices
  obtain ⟨derived, woven⟩ :=
    reached.withoutLegacy_unchanged_iff finalized mem free (Prod.ext rfl done)
  refine ⟨finalized, entity, mem, free, done, ?_, ?_⟩
  · by_contra unscoped
    exact surfaces (congrArg inputs (derived.mpr (Or.inl unscoped)))
  · by_contra unhooked
    exact chains (woven.mpr unhooked)

end Reachable

end Schema

end EntitySurface
