import EntitySurface.Proofs.Surface.Absorption

/-!
# What a surface refuses

The one thing that a surface refuses is a second form of an operation or a page that it holds. It
holds nothing that was not contributed. So a derivation whose rules do not fail themselves only
fails when the rules contribute two different things under one name.
-/

namespace EntitySurface

/-- The two are different operations, or different pages, of the given name. -/
inductive Contribution.Clashes (name : String) : Contribution → Contribution → Prop where
  | operations {first second : Operation} (firstNamed : first.name = name)
      (secondNamed : second.name = name) (different : first ≠ second) :
      Clashes name (.operation first) (.operation second)
  | pages {first second : Page} (firstNamed : first.name = name) (secondNamed : second.name = name)
      (different : first ≠ second) : Clashes name (.page first) (.page second)

namespace Surface

variable {surface changed : Surface} {contribution held : Contribution} {fresh : Bool}
  {contributions : List Contribution} {rules : List DerivationRule} {entity : Entity}
  {fault : Fault}

/-! ## What it holds comes from somewhere -/

theorem find?_append_singleton {α : Type} {list : List α} {test : α → Bool} {added found : α}
    (look : (list ++ [added]).find? test = some found) :
    list.find? test = some found ∨ found = added := by
  rw [List.find?_append, Option.or_eq_some_iff] at look
  exact look.imp_right fun new => List.mem_singleton.mp (List.mem_of_find?_eq_some new.2)

/-- A surface holds nothing but what it held before and what it took in. -/
theorem holds_of_absorb (absorbed : surface.absorb contribution = .ok (fresh, changed))
    (holds : changed.Holds held) : surface.Holds held ∨ held = contribution := by
  cases contribution with
  | operation operation =>
      rcases addOperation_eq_ok absorbed with ⟨-, rfl⟩ | ⟨-, groups, rfl⟩
      · exact Or.inl holds
      · cases held with
        | operation other => exact (find?_append_singleton holds).imp_right (congrArg _)
        | page | menuEntry | searchPlan => exact Or.inl holds
  | page page =>
      rcases addPage_eq_ok absorbed with ⟨-, rfl⟩ | ⟨-, rfl⟩
      · exact Or.inl holds
      · cases held with
        | page other => exact (find?_append_singleton holds).imp_right (congrArg _)
        | operation | menuEntry | searchPlan => exact Or.inl holds
  | menuEntry entry =>
      cases absorbed
      unfold addMenuEntry at holds
      split at holds
      · exact Or.inl holds
      · cases held with
        | menuEntry other =>
            rcases List.mem_append.mp holds with old | new
            · exact Or.inl old
            · exact Or.inr (congrArg _ (List.mem_singleton.mp new))
        | operation | page | searchPlan => exact Or.inl holds
  | searchPlan plan =>
      cases absorbed
      cases held with
      | searchPlan other => exact Or.inr (congrArg _ (Option.some.inj holds).symm)
      | operation | page | menuEntry => exact Or.inl holds

/-- An empty surface holds nothing. -/
theorem not_holds_empty {key : EntityKey} : ¬(empty key).Holds held := by
  cases held <;> simp [Holds, empty, operation?, page?]

/-- A surface stays the surface of its entity. -/
theorem entity_of_absorb (absorbed : surface.absorb contribution = .ok (fresh, changed)) :
    changed.entity = surface.entity := by
  cases contribution with
  | operation operation =>
      rcases addOperation_eq_ok absorbed with ⟨-, rfl⟩ | ⟨-, groups, rfl⟩ <;> rfl
  | page page => rcases addPage_eq_ok absorbed with ⟨-, rfl⟩ | ⟨-, rfl⟩ <;> rfl
  | menuEntry entry =>
      cases absorbed
      unfold addMenuEntry
      split <;> rfl
  | searchPlan plan =>
      cases absorbed
      rfl

/-- Taking contributions in keeps the entity, and adds nothing to what the surface holds but the
contributions. -/
theorem absorbAll_eq_ok (absorbed : surface.absorbAll contributions = .ok changed) :
    changed.entity = surface.entity ∧
      ∀ held, changed.Holds held → surface.Holds held ∨ held ∈ contributions := by
  induction contributions generalizing surface with
  | nil =>
      cases absorbed
      exact ⟨rfl, fun held holds => Or.inl holds⟩
  | cons contribution rest ih =>
      obtain ⟨fresh, next, step, absorbed⟩ := absorbAll_cons_eq_ok absorbed
      obtain ⟨sameEntity, held⟩ := ih absorbed
      refine ⟨sameEntity.trans (entity_of_absorb step), fun item holds => ?_⟩
      rcases held item holds with before | inRest
      · exact (holds_of_absorb step before).imp_right (by rintro rfl; simp)
      · exact Or.inr (List.mem_cons_of_mem _ inRest)

/-! ## Conflicts -/

theorem addOperation_eq_error {operation : Operation}
    (failed : surface.addOperation operation = .error fault) :
    ∃ existing, surface.operation? operation.name = some existing ∧ existing ≠ operation ∧
      fault = .derivationConflict surface.entity operation.name := by
  unfold addOperation at failed
  split at failed
  · next existing found =>
    split at failed
    · contradiction
    · next different => exact ⟨existing, found, different, (Except.error.inj failed).symm⟩
  · contradiction

theorem addPage_eq_error {page : Page} (failed : surface.addPage page = .error fault) :
    ∃ existing, surface.page? page.name = some existing ∧ existing ≠ page ∧
      fault = .derivationConflict surface.entity page.name := by
  unfold addPage at failed
  split at failed
  · next existing found =>
    split at failed
    · contradiction
    · next different => exact ⟨existing, found, different, (Except.error.inj failed).symm⟩
  · contradiction

/-- Only a second form of an operation or a page is refused. -/
theorem absorb_eq_error (failed : surface.absorb contribution = .error fault) :
    ∃ name held, surface.Holds held ∧ held.Clashes name contribution ∧
      fault = .derivationConflict surface.entity name := by
  cases contribution with
  | operation operation =>
      obtain ⟨existing, found, different, conflict⟩ := addOperation_eq_error failed
      have named : existing.name = operation.name := by simpa using List.find?_some found
      rw [← named] at found
      exact ⟨operation.name, .operation existing, found, .operations named rfl different, conflict⟩
  | page page =>
      obtain ⟨existing, found, different, conflict⟩ := addPage_eq_error failed
      have named : existing.name = page.name := by simpa using List.find?_some found
      rw [← named] at found
      exact ⟨page.name, .page existing, found, .pages named rfl different, conflict⟩
  | menuEntry | searchPlan => contradiction

/-- Contributions are refused for a clash among them or with what the surface holds. -/
theorem absorbAll_eq_error (failed : surface.absorbAll contributions = .error fault) :
    ∃ name first second, (surface.Holds first ∨ first ∈ contributions) ∧
      second ∈ contributions ∧ first.Clashes name second ∧
      fault = .derivationConflict surface.entity name := by
  induction contributions generalizing surface with
  | nil => contradiction
  | cons contribution rest ih =>
      rw [Surface.absorbAll] at failed
      cases step : surface.absorb contribution with
      | error cause =>
          simp only [step, Except.error.injEq] at failed
          obtain ⟨name, first, holds, clash, conflict⟩ := absorb_eq_error step
          exact ⟨name, first, contribution, Or.inl holds, List.mem_cons_self, clash,
            failed.symm.trans conflict⟩
      | ok outcome =>
          obtain ⟨fresh, next⟩ := outcome
          simp only [step] at failed
          obtain ⟨name, first, second, place, inRest, clash, conflict⟩ := ih failed
          refine ⟨name, first, second, ?_, List.mem_cons_of_mem _ inRest, clash,
            entity_of_absorb step ▸ conflict⟩
          rcases place with holds | mem
          · exact (holds_of_absorb step holds).imp_right (by rintro rfl; simp)
          · exact Or.inr (List.mem_cons_of_mem _ mem)

/-- Rules fail with the fault of one of them, or with a clash of what they contribute. -/
theorem applyRules_eq_error {pool : Contribution → Prop}
    (contributed : ∀ contribution, Contributed rules entity contribution → pool contribution)
    (holds : ∀ held, surface.Holds held → pool held)
    (failed : applyRules entity surface rules = .error fault) :
    (∃ rule ∈ rules, rule.appliesTo entity = true ∧ rule.contributions entity = .error fault) ∨
      ∃ name first second, pool first ∧ pool second ∧ first.Clashes name second ∧
        fault = .derivationConflict surface.entity name := by
  induction rules generalizing surface with
  | nil => contradiction
  | cons first rest ih =>
      have later {next : Surface} (sameEntity : next.entity = surface.entity)
          (holds : ∀ held, next.Holds held → pool held)
          (failed : applyRules entity next rest = .error fault) :
          (∃ rule ∈ first :: rest, rule.appliesTo entity = true ∧
            rule.contributions entity = .error fault) ∨
          ∃ name first second, pool first ∧ pool second ∧ first.Clashes name second ∧
            fault = .derivationConflict surface.entity name := by
        rcases ih (fun contribution among => contributed contribution among.cons) holds failed with
          ⟨rule, mem, found⟩ | clash
        · exact Or.inl ⟨rule, List.mem_cons_of_mem first mem, found⟩
        · exact Or.inr (sameEntity ▸ clash)
      rw [Surface.applyRules] at failed
      split at failed
      · next applies =>
        cases outcome : first.contributions entity with
        | error cause =>
            simp only [outcome, Except.error.injEq] at failed
            exact Or.inl ⟨first, List.mem_cons_self, applies, outcome.trans (congrArg _ failed)⟩
        | ok contributions =>
            simp only [outcome] at failed
            have inPool : ∀ contribution ∈ contributions, pool contribution :=
              fun contribution mem => contributed contribution
                ⟨first, List.mem_cons_self, applies, contributions, outcome, mem⟩
            cases step : surface.absorbAll contributions with
            | error cause =>
                simp only [step, Except.error.injEq] at failed
                obtain ⟨name, held, refused, place, mem, clash, conflict⟩ := absorbAll_eq_error step
                exact Or.inr ⟨name, held, refused, place.elim (holds held) (inPool held),
                  inPool refused mem, clash, failed.symm.trans conflict⟩
            | ok next =>
                simp only [step] at failed
                obtain ⟨sameEntity, held⟩ := absorbAll_eq_ok step
                exact later sameEntity
                  (fun item inNext => (held item inNext).elim (holds item) (inPool item)) failed
      · exact later rfl holds failed

/-- A derivation fails with the fault of a rule, or because rules contribute different things under
one name. -/
theorem derive_eq_error (finalized : entity.finalized = true)
    (failed : derive rules entity = .error fault) :
    (∃ rule ∈ rules, rule.appliesTo entity = true ∧ rule.contributions entity = .error fault) ∨
      ∃ name first second, Contributed rules entity first ∧ Contributed rules entity second ∧
        first.Clashes name second ∧ fault = .derivationConflict entity.key name := by
  rw [derive, if_pos finalized] at failed
  exact applyRules_eq_error (fun _ among => among) (fun _ holds => absurd holds not_holds_empty)
    failed

end Surface

end EntitySurface
