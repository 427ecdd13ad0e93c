import EntitySurface.Proofs.Schema.SubObjects
import EntitySurface.Proofs.Surface.Conflicts

/-!
# Why a derivation fails

Thirteen of the derivation rules never fail. Of the other three, the changes of parents cannot fail
either, because a stored sub-object link has no other parent link beside it. What remains is an
entity with more than one structural role, a target date without a lifecycle, and two rules that
contribute different things under one name.
-/

namespace EntitySurface

open EntitySurface.Derivation

/-- The faults in which the derivation of a composed entity by some rules may end, each with its
cause. Only active properties count. -/
inductive Entity.DerivationFault (rules : List DerivationRule) (entity : Entity) :
    Fault → Prop where
  /-- An object under a parent is deleted in another way than a link. -/
  | roles (identified : entity.hasKind .uniqueIdentified = true)
      (subObject : entity.isSubObject = true)
      (linked : entity.isLink = true ∨ entity.isAutolink = true) :
      DerivationFault rules entity (.exclusiveFlags entity.key (structuralRoles entity))
  /-- A target date makes sense beside a lifecycle only. -/
  | unsteered {property : Property} (dated : entity.firstOf? .targetDate = some property)
      (stateless : entity.hasKind .lifecycle = false) :
      DerivationFault rules entity
        (.missingPrecondition entity.key property.name .activeLifecycle)
  /-- Two operations or two pages of one name are not the same. -/
  | conflict {name : String} {first second : Contribution}
      (firstContributed : Surface.Contributed rules entity first)
      (secondContributed : Surface.Contributed rules entity second)
      (clash : first.Clashes name second) :
      DerivationFault rules entity (.derivationConflict entity.key name)

namespace Derivation

variable {rules : List DerivationRule} {entity : Entity} {fault : Fault}

/-- A target date asks for a lifecycle, and for nothing else. -/
theorem targetDate_eq_error (applies : entity.hasKind .targetDate = true)
    (failed : targetDate entity = .error fault) : entity.DerivationFault rules fault := by
  obtain ⟨property, -, dated, -⟩ := Entity.exists_firstOf? applies
  unfold targetDate at failed
  split at failed
  · contradiction
  · next stateless =>
    rw [dated, Except.error.injEq] at failed
    rw [← failed]
    exact .unsteered dated (by simpa using stateless)

theorem one_lt_length_structuralRoles_iff
    (apart : ¬(entity.isLink = true ∧ entity.isAutolink = true)) :
    1 < (structuralRoles entity).length ↔
      entity.isSubObject = true ∧ (entity.isLink = true ∨ entity.isAutolink = true) := by
  unfold structuralRoles
  cases entity.isSubObject <;> cases link : entity.isLink <;>
    cases autolink : entity.isAutolink <;> simp_all

/-- A sub-object link names the parent that deletion shows. -/
theorem exists_parentArgument? {link : Property} (subObject : link.isSubObject = true) :
    ∃ parent, link.parentArgument? = some parent := by
  obtain ⟨parent, kind⟩ :=
    PropertyKind.tag_eq_linkedToParent_iff.mp (Entity.tag_of_isSubObject subObject)
  exact ⟨_, by simp only [Property.parentArgument?, kind]; rfl⟩

/-- Deletion fails only if the entity has more than one structural role. -/
theorem deletion_eq_error (applies : entity.hasKind .uniqueIdentified = true)
    (apart : ¬(entity.isLink = true ∧ entity.isAutolink = true))
    (failed : deletion entity = .error fault) : entity.DerivationFault rules fault := by
  unfold deletion at failed
  split at failed
  · next several =>
    obtain ⟨subObject, linked⟩ := (one_lt_length_structuralRoles_iff apart).mp several
    rw [← Except.error.inj failed]
    exact .roles applies subObject linked
  · split at failed
    · next link found =>
      obtain ⟨parent, shown⟩ := exists_parentArgument? (List.find?_some found)
      rw [shown] at failed
      contradiction
    · repeat' split at failed
      all_goals contradiction

end Derivation

variable {rules : List DerivationRule} {entity : Entity} {fault : Fault}

/-- What a rule cannot contribute is the fault of the entity's flags. -/
theorem DerivationRule.contributions_eq_error {rule : DerivationRule}
    (names : (entity.properties.map Property.name).Nodup) (sole : entity.SoleSubObject)
    (apart : ¬(entity.isLink = true ∧ entity.isAutolink = true))
    (applies : rule.appliesTo entity = true) (failed : rule.contributions entity = .error fault) :
    entity.DerivationFault rules fault := by
  cases rule
  case targetDate => exact targetDate_eq_error applies failed
  case deletion => exact deletion_eq_error applies apart failed
  case parentLinks =>
    have succeeded := sole.parentChanges_eq names
    rw [contributions, succeeded] at failed
    contradiction
  all_goals contradiction

theorem Surface.derivationFault_of_derive
    (finalized : entity.finalized = true) (names : (entity.properties.map Property.name).Nodup)
    (sole : entity.SoleSubObject) (apart : ¬(entity.isLink = true ∧ entity.isAutolink = true))
    (failed : derive rules entity = .error fault) : entity.DerivationFault rules fault := by
  rcases derive_eq_error finalized failed with ⟨rule, -, applies, refused⟩ |
    ⟨name, first, second, firstContributed, secondContributed, clash, rfl⟩
  · exact DerivationRule.contributions_eq_error names sole apart applies refused
  · exact .conflict firstContributed secondContributed clash

end EntitySurface
