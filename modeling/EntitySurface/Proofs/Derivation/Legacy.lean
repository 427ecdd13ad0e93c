import EntitySurface.Proofs.Derivation.Bare
import EntitySurface.Proofs.Surface.Absorption
import EntitySurface.Proofs.Surface.Rewording

/-!
# Derivation without legacy properties

Deleting the legacy properties of an entity and finalizing it again changes the derived surface only
if the entity is renumbered within the parent of a legacy parent link. Then renumbering loses this
argument or gets another one, and everything else is derived as before.
-/

namespace EntitySurface

namespace Entity

namespace Reduces

variable {entity reduced : Entity} (reduces : Reduces entity reduced)
include reduces

theorem hasKind_eq (tag : PropertyTag) : reduced.hasKind tag = entity.hasKind tag := by
  rw [← hasKind_bare, reduces.bare_eq, hasKind_bare]

theorem appliesTo_eq (rule : DerivationRule) : rule.appliesTo reduced = rule.appliesTo entity := by
  rw [← DerivationRule.appliesTo_bare, reduces.bare_eq, DerivationRule.appliesTo_bare]

theorem noLegacyWidget : reduced.NoLegacyWidget := by
  intro widget _ property mem legacy
  rw [← reduces.activeProperties_eq, mem_activeProperties_iff, legacy] at mem
  exact absurd mem.2 (by decide)

theorem creation_eq (wellFormed : entity.WellFormed) (settled : entity.Settled) :
    Derivation.creation reduced = Derivation.creation entity := by
  have arguments : reduced.creationArguments = entity.creationArguments := by
    have single := wellFormed.hasAtMostOne_lifecycle
    rw [reduces.settled.creationArguments_eq_expected (reduces.hasAtMostOne single),
      settled.creationArguments_eq_expected single, reduces.hasKind_eq,
      reduces.expectedArguments_eq]
  simp only [Derivation.creation, guardedOperation, operation, pascalName, objectArgument,
    arguments, reduces.key_eq]

/-- Only numbering may contribute something else. -/
theorem contributions_eq (wellFormed : entity.WellFormed) (settled : entity.Settled)
    (free : entity.NoLegacyWidget) {rule : DerivationRule} (notNumbering : rule ≠ .numbering) :
    rule.contributions reduced = rule.contributions entity := by
  by_cases create : rule = .create
  · subst rule
    exact congrArg Except.ok (reduces.creation_eq wellFormed settled)
  · rw [← DerivationRule.contributions_bare reduces.settled reduces.noLegacyWidget create
      notNumbering, reduces.bare_eq,
      DerivationRule.contributions_bare settled free create notNumbering]

/-! ## Numbering -/

/-- Renumbering is derived as before, except in a legacy scope. -/
theorem renumbering_eq (wellFormed : entity.WellFormed) (settled : entity.Settled)
    (unscoped : ¬ entity.LegacyScoped)
    (applies : DerivationRule.appliesTo .numbering entity = true) :
    Derivation.renumbering reduced = Derivation.renumbering entity := by
  obtain ⟨numbered, found, manual⟩ := (Option.any_eq_true _ _).mp applies
  obtain ⟨same, foundSame, arguments⟩ :=
    reduces.extraArguments_numbered_eq_iff wellFormed settled found
  have scope := arguments.mpr fun legacyLink =>
    unscoped ⟨numbered, found, by simpa using manual, legacyLink⟩
  simp only [Derivation.renumbering, found, foundSame, scope, guardedOperation, pascalName,
    objectArgument, reduces.key_eq]

/-- In a legacy scope, renumbering comes to take other arguments. -/
theorem exists_renumbering_ne (wellFormed : entity.WellFormed) (settled : entity.Settled)
    (within : entity.LegacyScoped) :
    ∃ one other : Operation, one ≠ other ∧ one.name = "Renumber" ++ entity.pascalName ∧
      one.name = other.name ∧ one.groups = other.groups ∧
      Derivation.renumbering entity = [.operation one] ∧
      Derivation.renumbering reduced = [.operation other] := by
  obtain ⟨numbered, found, -, legacyLink⟩ := within
  obtain ⟨same, foundSame, arguments⟩ :=
    reduces.extraArguments_numbered_eq_iff wellFormed settled found
  have pascalName_eq : reduced.pascalName = entity.pascalName := by
    rw [pascalName, pascalName, reduces.key_eq]
  unfold Derivation.renumbering
  rw [found, foundSame]
  refine ⟨_, _, fun equal => ?_, ?_, ?_, ?_, rfl, rfl⟩
  · have inputs := congrArg Operation.inputs equal
    simp only [guardedOperation, Operation.make, objectArgument, reduces.key_eq,
      List.append_cancel_left_eq] at inputs
    exact arguments.mp inputs.symm legacyLink
  · exact guardedOperation_name _ _ _ _ _
  · rw [guardedOperation_name, guardedOperation_name, pascalName_eq]
  · simp only [guardedOperation, Operation.make]

omit reduces in
theorem appliesTo_numbering (within : entity.LegacyScoped) :
    DerivationRule.appliesTo .numbering entity = true := by
  obtain ⟨numbered, found, manual, -⟩ := within
  simp [DerivationRule.appliesTo, found, manual]

/-! ## The derived surface -/

open Surface

theorem derive_eq_of_not_legacyScoped (wellFormed : entity.WellFormed) (settled : entity.Settled)
    (free : entity.NoLegacyWidget) (unscoped : ¬ entity.LegacyScoped)
    (rules : List DerivationRule) : derive rules reduced = derive rules entity := by
  have contributed : ∀ rule ∈ rules, rule.appliesTo entity = true →
      rule.contributions reduced =
        (rule.contributions entity).map (List.map (Contribution.reword id)) := by
    intro rule _ applies
    have kept : rule.contributions reduced = rule.contributions entity := by
      by_cases numbering : rule = .numbering
      · subst rule
        exact congrArg Except.ok (reduces.renumbering_eq wellFormed settled unscoped applies)
      · exact reduces.contributions_eq wellFormed settled free numbering
    rw [kept, funext Contribution.map_reword_id]
    cases rule.contributions entity <;> rfl
  rw [derive_reword .id (fun rule _ => reduces.appliesTo_eq rule) contributed reduces.key_eq
    (reduces.settled.finalized.trans settled.finalized.symm), funext reword_id]
  cases derive rules entity <;> rfl

/-- In a legacy scope, derivation takes the same course, but with other arguments of renumbering. -/
theorem derive_eq_of_legacyScoped (wellFormed : entity.WellFormed) (settled : entity.Settled)
    (free : entity.NoLegacyWidget) (within : entity.LegacyScoped) {rules : List DerivationRule}
    (mem : .numbering ∈ rules) :
    derive rules reduced = derive rules entity ↔ ∃ fault, derive rules reduced = .error fault := by
  obtain ⟨one, other, apart, name, sameName, sameGroups, renumbering, renumberingReduced⟩ :=
    reduces.exists_renumbering_ne wellFormed settled within
  have contributed : ∀ rule ∈ rules, rule.appliesTo entity = true →
      rule.contributions reduced =
        (rule.contributions entity).map
          (List.map (Contribution.reword (Equiv.swap one other))) := by
    intro rule _ _
    by_cases numbering : rule = .numbering
    · subst rule
      simp only [DerivationRule.contributions, renumbering, renumberingReduced, Except.map,
        List.map_cons, List.map_nil, Contribution.reword, Equiv.swap_apply_left]
    · rw [reduces.contributions_eq wellFormed settled free numbering]
      cases outcome : rule.contributions entity with
      | error fault => rfl
      | ok contributions =>
          have avoids := DerivationRule.avoids_renumber numbering outcome
          rw [← name] at avoids
          rw [Except.map, Contribution.map_reword_swap sameName avoids]
  have course := derive_reword (.swap sameName sameGroups)
    (fun rule _ => reduces.appliesTo_eq rule) contributed reduces.key_eq
    (reduces.settled.finalized.trans settled.finalized.symm)
  rw [course]
  cases derived : derive rules entity with
  | error fault => exact ⟨fun _ => ⟨fault, rfl⟩, fun _ => rfl⟩
  | ok surface =>
      constructor
      · intro same
        have registered := operation?_of_derive derived mem (appliesTo_numbering within)
          (congrArg Except.ok renumbering) (List.mem_singleton.mpr rfl)
        have unchanged := apply_eq_of_reword_eq_self (Except.ok.inj same)
          (List.mem_of_find?_eq_some registered)
        rw [Equiv.swap_apply_left] at unchanged
        exact absurd unchanged.symm apart
      · rintro ⟨fault, failed⟩
        simp [Except.map] at failed

/-- The deletion changes the derived surface exactly when the entity is renumbered within the parent
of a legacy parent link and has a surface at all. -/
theorem derive_eq_iff (wellFormed : entity.WellFormed) (settled : entity.Settled)
    (free : entity.NoLegacyWidget) {rules : List DerivationRule} (mem : .numbering ∈ rules) :
    derive rules reduced = derive rules entity ↔
      ¬ entity.LegacyScoped ∨ ∃ fault, derive rules reduced = .error fault := by
  by_cases within : entity.LegacyScoped
  · rw [reduces.derive_eq_of_legacyScoped wellFormed settled free within mem]
    simp [within]
  · simp [within, reduces.derive_eq_of_not_legacyScoped wellFormed settled free within rules]

end Reduces

end Entity

end EntitySurface
