import EntitySurface.Derivation.Rule

/-!
# What a surface takes in

A surface never loses an operation, a page or a menu entry, and loses a search plan to another one
only. So everything that the rules of a successful derivation contribute is found in the derived
surface in the end.
-/

namespace EntitySurface

/-- The contribution is found in the surface. -/
def Surface.Holds (surface : Surface) : Contribution → Prop
  | .operation operation => surface.operation? operation.name = some operation
  | .page page => surface.page? page.name = some page
  | .menuEntry entry => entry ∈ surface.menuEntries
  | .searchPlan plan => surface.searchPlan = some plan

/-- The two are not different search plans. -/
def Contribution.Agrees (first second : Contribution) : Prop :=
  ∀ plan other, first = .searchPlan plan → second = .searchPlan other → plan = other

namespace Surface

variable {surface changed : Surface} {contribution held : Contribution} {fresh : Bool}

/-! ## One contribution -/

/-- An operation is registered when it is there already or its name is free. -/
theorem addOperation_eq_ok {operation : Operation}
    (added : surface.addOperation operation = .ok (fresh, changed)) :
    surface.operation? operation.name = some operation ∧ changed = surface ∨
      surface.operation? operation.name = none ∧ ∃ groups,
        changed = { surface with operations := surface.operations ++ [operation], groups } := by
  unfold addOperation at added
  cases found : surface.operation? operation.name with
  | none =>
      simp only [found, Except.ok.injEq, Prod.mk.injEq] at added
      exact Or.inr ⟨rfl, _, added.2.symm⟩
  | some existing =>
      simp only [found] at added
      split at added
      · next same =>
        simp only [Except.ok.injEq, Prod.mk.injEq] at added
        exact Or.inl ⟨congrArg some same, added.2.symm⟩
      · contradiction

theorem addPage_eq_ok {page : Page} (added : surface.addPage page = .ok (fresh, changed)) :
    surface.page? page.name = some page ∧ changed = surface ∨
      surface.page? page.name = none ∧
        changed = { surface with pages := surface.pages ++ [page] } := by
  unfold addPage at added
  cases found : surface.page? page.name with
  | none =>
      simp only [found, Except.ok.injEq, Prod.mk.injEq] at added
      exact Or.inr ⟨rfl, added.2.symm⟩
  | some existing =>
      simp only [found] at added
      split at added
      · next same =>
        simp only [Except.ok.injEq, Prod.mk.injEq] at added
        exact Or.inl ⟨congrArg some same, added.2.symm⟩
      · contradiction

/-- What was taken in is found in the surface. -/
theorem absorb_holds (absorbed : surface.absorb contribution = .ok (fresh, changed)) :
    changed.Holds contribution := by
  cases contribution with
  | operation operation =>
      rcases addOperation_eq_ok absorbed with ⟨found, rfl⟩ | ⟨free, groups, rfl⟩
      · exact found
      · unfold operation? at free
        simp [Holds, operation?, List.find?_append, free]
  | page page =>
      rcases addPage_eq_ok absorbed with ⟨found, rfl⟩ | ⟨free, rfl⟩
      · exact found
      · unfold page? at free
        simp [Holds, page?, List.find?_append, free]
  | menuEntry entry =>
      cases absorbed
      show entry ∈ (surface.addMenuEntry entry).menuEntries
      unfold addMenuEntry
      split
      · next listed => exact List.contains_iff_mem.mp listed
      · simp
  | searchPlan plan =>
      cases absorbed
      rfl

/-- What was found in the surface before is still found there. -/
theorem Holds.absorb (holds : surface.Holds held) (agrees : held.Agrees contribution)
    (absorbed : surface.absorb contribution = .ok (fresh, changed)) : changed.Holds held := by
  cases contribution with
  | operation operation =>
      rcases addOperation_eq_ok absorbed with ⟨-, rfl⟩ | ⟨-, groups, rfl⟩
      · exact holds
      · cases held with
        | operation other =>
            unfold Holds operation? at holds ⊢
            simp [List.find?_append, holds]
        | page | menuEntry | searchPlan => exact holds
  | page page =>
      rcases addPage_eq_ok absorbed with ⟨-, rfl⟩ | ⟨-, rfl⟩
      · exact holds
      · cases held with
        | page other =>
            unfold Holds page? at holds ⊢
            simp [List.find?_append, holds]
        | operation | menuEntry | searchPlan => exact holds
  | menuEntry entry =>
      cases absorbed
      unfold addMenuEntry
      split
      · exact holds
      · cases held with
        | menuEntry other => exact List.mem_append_left _ holds
        | operation | page | searchPlan => exact holds
  | searchPlan plan =>
      cases absorbed
      cases held with
      | searchPlan other => exact congrArg some (agrees other plan rfl rfl).symm
      | operation | page | menuEntry => exact holds

/-! ## Contributions and rules in order -/

variable {contributions rest : List Contribution}

/-- The first contribution is taken in before the others. -/
theorem absorbAll_cons_eq_ok
    (absorbed : surface.absorbAll (contribution :: rest) = .ok changed) :
    ∃ fresh next, surface.absorb contribution = .ok (fresh, next) ∧
      next.absorbAll rest = .ok changed := by
  rw [Surface.absorbAll] at absorbed
  cases step : surface.absorb contribution with
  | error fault => simp [step] at absorbed
  | ok outcome =>
      simp only [step] at absorbed
      exact ⟨outcome.1, outcome.2, rfl, absorbed⟩

theorem Holds.absorbAll (place : surface.Holds held ∨ held ∈ contributions)
    (agrees : ∀ contribution ∈ contributions, held.Agrees contribution)
    (absorbed : surface.absorbAll contributions = .ok changed) : changed.Holds held := by
  induction contributions generalizing surface with
  | nil =>
      cases absorbed
      exact place.resolve_right List.not_mem_nil
  | cons contribution rest ih =>
      obtain ⟨fresh, next, step, absorbed⟩ := absorbAll_cons_eq_ok absorbed
      obtain ⟨first, others⟩ := List.forall_mem_cons.mp agrees
      apply ih _ others absorbed
      rcases place with holds | mem
      · exact Or.inl (holds.absorb first step)
      · rcases List.mem_cons.mp mem with rfl | inRest
        · exact Or.inl (absorb_holds step)
        · exact Or.inr inRest

variable {entity : Entity} {rules : List DerivationRule} {rule : DerivationRule}

/-- Some of the rules applies to the entity and contributes this. -/
def Contributed (rules : List DerivationRule) (entity : Entity) (contribution : Contribution) :
    Prop :=
  ∃ rule ∈ rules, rule.appliesTo entity = true ∧
    ∃ contributions, rule.contributions entity = .ok contributions ∧ contribution ∈ contributions

theorem Contributed.cons (contributed : Contributed rules entity contribution) :
    Contributed (rule :: rules) entity contribution := by
  obtain ⟨source, mem, found⟩ := contributed
  exact ⟨source, List.mem_cons_of_mem rule mem, found⟩

theorem Holds.applyRules (place : surface.Holds held ∨ Contributed rules entity held)
    (agrees : ∀ rule ∈ rules, ∀ contributions, rule.contributions entity = .ok contributions →
      ∀ contribution ∈ contributions, held.Agrees contribution)
    (applied : applyRules entity surface rules = .ok changed) : changed.Holds held := by
  induction rules generalizing surface with
  | nil =>
      cases applied
      rcases place with holds | ⟨rule, mem, -⟩
      · exact holds
      · contradiction
  | cons first rest ih =>
      rw [Surface.applyRules] at applied
      obtain ⟨agreesFirst, agreesRest⟩ := List.forall_mem_cons.mp agrees
      split at applied
      · next applies =>
        cases outcome : first.contributions entity with
        | error fault => simp [outcome] at applied
        | ok contributions =>
            simp only [outcome] at applied
            cases step : surface.absorbAll contributions with
            | error fault => simp [step] at applied
            | ok next =>
                simp only [step] at applied
                have agreesNow := agreesFirst contributions outcome
                apply ih _ agreesRest applied
                rcases place with holds | ⟨rule, mem, ruleApplies, others, same, inOthers⟩
                · exact Or.inl (Holds.absorbAll (Or.inl holds) agreesNow step)
                · rcases List.mem_cons.mp mem with rfl | inRest
                  · rw [outcome] at same
                    cases same
                    exact Or.inl (Holds.absorbAll (Or.inr inOthers) agreesNow step)
                  · exact Or.inr ⟨rule, inRest, ruleApplies, others, same, inOthers⟩
      · next skipped =>
        apply ih _ agreesRest applied
        rcases place with holds | ⟨rule, mem, applies, found⟩
        · exact Or.inl holds
        · rcases List.mem_cons.mp mem with rfl | inRest
          · exact absurd applies skipped
          · exact Or.inr ⟨rule, inRest, applies, found⟩

/-- What a rule contributes is found in the derived surface, unless it is a search plan and another
one is contributed. -/
theorem holds_of_derive (derived : derive rules entity = .ok surface)
    (mem : rule ∈ rules) (applies : rule.appliesTo entity = true)
    (contributed : rule.contributions entity = .ok contributions)
    (inContributions : contribution ∈ contributions)
    (agrees : ∀ rule ∈ rules, ∀ contributions, rule.contributions entity = .ok contributions →
      ∀ other ∈ contributions, contribution.Agrees other) : surface.Holds contribution := by
  unfold derive at derived
  split at derived
  · exact Holds.applyRules
      (Or.inr ⟨rule, mem, applies, contributions, contributed, inContributions⟩) agrees derived
  · contradiction

theorem operation?_of_derive (derived : derive rules entity = .ok surface)
    (mem : rule ∈ rules) (applies : rule.appliesTo entity = true)
    (contributed : rule.contributions entity = .ok contributions) {operation : Operation}
    (inContributions : .operation operation ∈ contributions) :
    surface.operation? operation.name = some operation :=
  holds_of_derive derived mem applies contributed inContributions fun _ _ _ _ _ _ => nofun

theorem page?_of_derive (derived : derive rules entity = .ok surface)
    (mem : rule ∈ rules) (applies : rule.appliesTo entity = true)
    (contributed : rule.contributions entity = .ok contributions) {page : Page}
    (inContributions : .page page ∈ contributions) : surface.page? page.name = some page :=
  holds_of_derive derived mem applies contributed inContributions fun _ _ _ _ _ _ => nofun

end Surface

end EntitySurface
