import EntitySurface.Demo
import EntitySurface.Proofs.Derivation.Faults
import EntitySurface.Proofs.Emission.Protocol
import EntitySurface.Proofs.Entity.HookChains
import EntitySurface.Proofs.Schema.Finalized
import EntitySurface.Proofs.Validation.Rules

/-!
# Why a generation fails

What composition, finalization and validation have checked is not checked in vain: the generation of
an accepted schema only fails where the derivation of one of its entities does. Hooks have their
targets, sub-object links stand alone, and emitters are called in order.
-/

namespace EntitySurface.Schema

variable {schema : Schema}

/-- Where hooks can be woven, the entities are derived up to the first surface that cannot be. -/
theorem deriveEach_eq_ok_or_error {rules : List DerivationRule} {entities : List Entity}
    (woven : ∀ entity ∈ entities, ∃ chains, entity.hookChains = .ok chains) :
    (∃ derived, deriveEach rules entities = .ok derived) ∨
      ∃ entity ∈ entities, ∃ fault,
        Surface.derive rules entity = .error fault ∧ deriveEach rules entities = .error fault := by
  induction entities with
  | nil => exact Or.inl ⟨[], rfl⟩
  | cons entity rest ih =>
      obtain ⟨⟨chains, chained⟩, others⟩ := List.forall_mem_cons.mp woven
      rw [deriveEach]
      cases derived : Surface.derive rules entity with
      | error fault => exact Or.inr ⟨entity, List.mem_cons_self, fault, derived, rfl⟩
      | ok surface =>
          rw [chained]
          rcases ih others with ⟨last, succeeded⟩ | ⟨failing, mem, fault, refused, failed⟩
          · rw [succeeded]
            exact Or.inl ⟨_, rfl⟩
          · rw [failed]
            exact Or.inr ⟨failing, List.mem_cons_of_mem _ mem, fault, refused, rfl⟩

namespace Reachable

/-- The generation of a finalized schema that validation accepts succeeds, or it fails because the
derivation of an entity does: the entity has a unique identity and is both a sub-object and a link
of either kind, or it has a target date and no lifecycle, or its rules disagree about what an
operation or a page is. It does not fail in any other way, whatever the settings are. -/
theorem generate_faults (reached : schema.Reachable) (finalized : schema.phase = .finalized)
    (accepted : (schema.validate ValidationRule.standard).isValid = true)
    (settings : GenerationSettings) (rules : List DerivationRule) :
    (∃ project, schema.generate settings rules = .ok project) ∨
      ∃ entity ∈ schema.entities, ∃ fault, entity.DerivationFault rules fault ∧
        schema.generate settings rules = .error fault := by
  have isFinalized : schema.isFinalized = true := by simp [isFinalized, finalized]
  have noFault : (schema.validate ValidationRule.standard).toFault? = none :=
    Report.toFault?_eq_none_iff.mpr accepted
  have exclusive := isValid_checkLinkExclusivity_iff.mp
    (isValid_validate_iff.mp accepted .linkExclusivity (by decide))
  have names : ∀ entity ∈ schema.entities, (entity.properties.map Property.name).Nodup :=
    fun entity mem => (reached.wellFormed.entities entity mem).propertyNames
  have settled := reached.settled finalized
  have woven : ∀ entity ∈ schema.entities, ∃ chains, entity.hookChains = .ok chains :=
    fun entity mem =>
      ⟨_, Entity.hookChains_eq (settled entity mem).finalized (names entity mem)⟩
  unfold generate deriveAll
  simp only [isFinalized, noFault, Bool.not_true, Bool.false_eq_true, if_false]
  rcases deriveEach_eq_ok_or_error woven with ⟨derived, succeeded⟩ |
    ⟨entity, mem, fault, refused, failed⟩
  · obtain ⟨files, emitted⟩ := schema.exists_emit_eq_ok settings derived
    rw [succeeded]
    simp only [bind, Except.bind, pure, Except.pure, emitted]
    exact Or.inl ⟨_, rfl⟩
  · rw [failed]
    have cause := Surface.derivationFault_of_derive (settled entity mem).finalized
      (names entity mem) (reached.forall_entities Entity.soleSubObject_invariant entity mem)
      (exclusive entity mem) refused
    exact Or.inr ⟨entity, mem, fault, cause, rfl⟩

/-- Invoices with a target date that have their lifecycle from former times only. -/
def datedInvoices : List Command :=
  Demo.Sales.categories ++ Demo.identified Demo.Sales.invoice "Invoice" "A bill" ++
    [.property Demo.Sales.invoice (.ofKind (.lifecycle Demo.Sales.invoiceState)) .legacy,
     Demo.attach Demo.Sales.invoice (.ofKind .targetDate), .finish]

/-- A legacy lifecycle is enough for finalization and validation, and stops every generation. -/
theorem generate_faults_datedInvoices :
    let schema := (({ name := "sales" } : Schema).executeAll datedInvoices).1
    let fault := Fault.missingPrecondition Demo.Sales.invoice "TARGETDATE" .activeLifecycle
    schema.phase = .finalized ∧ (schema.validate ValidationRule.standard).isValid = true ∧
      ∀ settings, schema.generate settings = .error fault ∧
        ∃ entity ∈ schema.entities, entity.DerivationFault DerivationRule.standard fault := by
  intro schema fault
  have finalized : schema.phase = .finalized := by decide +kernel
  have accepted : (schema.validate ValidationRule.standard).isValid = true := by decide +kernel
  have underivable : schema.deriveAll DerivationRule.standard = .error fault := by decide +kernel
  refine ⟨finalized, accepted, fun settings => ?_⟩
  have failed : schema.generate settings = .error fault := by
    rw [generate, underivable]
    rfl
  refine ⟨failed, ?_⟩
  have reached : schema.Reachable := (Reachable.start "sales").executeAll datedInvoices
  rcases reached.generate_faults finalized accepted settings DerivationRule.standard with
    ⟨project, succeeded⟩ | ⟨entity, mem, cause, found, same⟩
  · rw [failed] at succeeded
    contradiction
  · obtain rfl : fault = cause := Except.error.inj (failed.symm.trans same)
    exact ⟨entity, mem, found⟩

end Reachable

end EntitySurface.Schema
