import EntitySurface.Proofs.Surface.Conflicts
import EntitySurface.Proofs.Surface.Ledger

/-!
# What a derived surface consists of

A successful derivation is a run of offers none of which is refused. So the derived surface holds
exactly the operations, pages and menu entries that its rules contribute, and its action groups list
the operations that ask for them.
-/

namespace EntitySurface

theorem exists_eq_ok_of_isSome {ε α : Type} {outcome : Except ε α}
    (succeeds : outcome.toOption.isSome = true) : ∃ value, outcome = .ok value := by
  cases outcome with
  | error fault => simp [Except.toOption] at succeeds
  | ok value => exact ⟨value, rfl⟩

theorem Contribution.operation?_eq_some_iff {contribution : Contribution} {operation : Operation} :
    contribution.operation? = some operation ↔ contribution = .operation operation := by
  cases contribution <;> simp [operation?]

theorem Contribution.page?_eq_some_iff {contribution : Contribution} {page : Page} :
    contribution.page? = some page ↔ contribution = .page page := by
  cases contribution <;> simp [page?]

namespace Surface

variable {surface changed : Surface} {contribution : Contribution}
  {contributions : List Contribution} {entity : Entity} {rules : List DerivationRule}

/-! ## Derivation as a run of offers -/

theorem absorbAll_append (surface : Surface) (first second : List Contribution) :
    surface.absorbAll (first ++ second) =
      match surface.absorbAll first with
      | .error fault => .error fault
      | .ok changed => changed.absorbAll second := by
  induction first generalizing surface with
  | nil => rfl
  | cons contribution rest ih =>
      rw [List.cons_append, Surface.absorbAll, Surface.absorbAll]
      cases surface.absorb contribution with
      | error fault => rfl
      | ok outcome => exact ih outcome.2

theorem applyRules_append (entity : Entity) (surface : Surface)
    (first second : List DerivationRule) :
    applyRules entity surface (first ++ second) =
      match applyRules entity surface first with
      | .error fault => .error fault
      | .ok changed => applyRules entity changed second := by
  induction first generalizing surface with
  | nil => rfl
  | cons rule rest ih =>
      rw [List.cons_append, Surface.applyRules, Surface.applyRules]
      split
      · cases rule.contributions entity with
        | error fault => rfl
        | ok contributions =>
            dsimp only
            cases surface.absorbAll contributions with
            | error fault => rfl
            | ok changed => exact ih changed
      · exact ih surface

/-- Contributions that are all taken in are offers that are all accepted. -/
theorem offerAll_eq_of_absorbAll (absorbed : surface.absorbAll contributions = .ok changed) :
    surface.offerAll contributions = changed := by
  induction contributions generalizing surface with
  | nil => exact Except.ok.inj absorbed
  | cons contribution rest ih =>
      obtain ⟨fresh, next, step, absorbed⟩ := absorbAll_cons_eq_ok absorbed
      have offered : (surface.offer contribution).2 = next := by rw [offer, step]
      rw [offerAll, List.foldl_cons, offered]
      exact ih absorbed

/-- All that the rules contribute to the surface of an entity, in order. -/
def contributed (rules : List DerivationRule) (entity : Entity) : List Contribution :=
  (rules.filter fun rule => rule.appliesTo entity).flatMap fun rule =>
    (rule.contributions entity).toOption.getD []

theorem mem_contributed_iff :
    contribution ∈ contributed rules entity ↔ Contributed rules entity contribution := by
  simp only [contributed, List.mem_flatMap, List.mem_filter, and_assoc, Contributed]
  refine exists_congr fun rule => and_congr_right fun _ => and_congr_right fun _ => ?_
  cases rule.contributions entity with
  | error fault => simp [Except.toOption]
  | ok contributions => simp [Except.toOption]

/-- Applying rules takes in what they contribute. -/
theorem absorbAll_contributed (applied : applyRules entity surface rules = .ok changed) :
    surface.absorbAll (contributed rules entity) = .ok changed := by
  induction rules generalizing surface with
  | nil => exact applied
  | cons rule rest ih =>
      rw [Surface.applyRules] at applied
      split at applied
      · next applies =>
        cases outcome : rule.contributions entity with
        | error fault => simp [outcome] at applied
        | ok contributions =>
            simp only [outcome] at applied
            have split : contributed (rule :: rest) entity =
                contributions ++ contributed rest entity := by
              simp [contributed, applies, outcome, Except.toOption]
            rw [split, absorbAll_append]
            cases step : surface.absorbAll contributions with
            | error fault => simp [step] at applied
            | ok next =>
                simp only [step] at applied
                exact ih applied
      · next skipped =>
        have same : contributed (rule :: rest) entity = contributed rest entity := by
          simp [contributed, skipped]
        rw [same]
        exact ih applied

theorem exists_contributions_of_applyRules
    (applied : applyRules entity surface rules = .ok changed) {rule : DerivationRule}
    (mem : rule ∈ rules) (applies : rule.appliesTo entity = true) :
    ∃ contributions, rule.contributions entity = .ok contributions := by
  induction rules generalizing surface with
  | nil => contradiction
  | cons first rest ih =>
      rw [Surface.applyRules] at applied
      split at applied
      · cases outcome : first.contributions entity with
        | error fault => simp [outcome] at applied
        | ok contributions =>
            simp only [outcome] at applied
            split at applied
            · contradiction
            · rcases List.mem_cons.mp mem with rfl | inRest
              · exact ⟨contributions, outcome⟩
              · exact ih applied inRest
      · next skipped =>
        rcases List.mem_cons.mp mem with rfl | inRest
        · exact absurd applies skipped
        · exact ih applied inRest

variable (derived : derive rules entity = .ok surface)
include derived

theorem absorbAll_of_derive :
    (empty entity.key).absorbAll (contributed rules entity) = .ok surface := by
  unfold derive at derived
  split at derived
  · exact absorbAll_contributed derived
  · contradiction

/-- In a successful derivation no rule failed. -/
theorem exists_contributions_of_derive {rule : DerivationRule} (mem : rule ∈ rules)
    (applies : rule.appliesTo entity = true) :
    ∃ contributions, rule.contributions entity = .ok contributions := by
  unfold derive at derived
  split at derived
  · exact exists_contributions_of_applyRules derived mem applies
  · contradiction

/-- A derived surface records what its rules contribute. -/
theorem records_of_derive :
    surface.Records entity.key ((contributed rules entity).filterMap Contribution.operation?)
      ((contributed rules entity).filterMap Contribution.page?)
      ((contributed rules entity).filterMap Contribution.menuEntry?) := by
  rw [← offerAll_eq_of_absorbAll (absorbAll_of_derive derived)]
  exact records_offerAll entity.key _

/-- What is found in a derived surface was contributed. -/
theorem contributed_of_holds (holds : surface.Holds contribution) :
    Contributed rules entity contribution := by
  rcases (absorbAll_eq_ok (absorbAll_of_derive derived)).2 contribution holds with before | mem
  · exact absurd before not_holds_empty
  · exact mem_contributed_iff.mp mem

/-- What was contributed is found in the derived surface, search plans apart. -/
theorem holds_of_contributed (among : Contributed rules entity contribution)
    (noPlan : ∀ plan, contribution ≠ .searchPlan plan) : surface.Holds contribution := by
  obtain ⟨rule, mem, applies, contributions, outcome, inContributions⟩ := among
  exact holds_of_derive derived mem applies outcome inContributions
    fun _ _ _ _ _ _ plan _ same => absurd same (noPlan plan)

/-! ## Its operations, pages and menu entries -/

theorem mem_operations_iff {operation : Operation} :
    operation ∈ surface.operations ↔ Contributed rules entity (.operation operation) := by
  constructor
  · intro mem
    have offered := (records_of_derive derived).operations.order.subset mem
    simp only [List.mem_filterMap, Contribution.operation?_eq_some_iff, exists_eq_right] at offered
    exact mem_contributed_iff.mp offered
  · intro among
    exact List.mem_of_find?_eq_some (holds_of_contributed derived among nofun)

theorem mem_pages_iff {page : Page} :
    page ∈ surface.pages ↔ Contributed rules entity (.page page) := by
  constructor
  · intro mem
    have offered := (records_of_derive derived).pages.order.subset mem
    simp only [List.mem_filterMap, Contribution.page?_eq_some_iff, exists_eq_right] at offered
    exact mem_contributed_iff.mp offered
  · intro among
    exact List.mem_of_find?_eq_some (holds_of_contributed derived among nofun)

theorem mem_menuEntries_iff {entry : MenuEntry} :
    entry ∈ surface.menuEntries ↔ Contributed rules entity (.menuEntry entry) :=
  ⟨fun mem => contributed_of_holds derived mem,
    fun among => holds_of_contributed derived among nofun⟩

/-- The groups of a derived surface list its operations by the groups that these ask for. -/
theorem operations_group_of_derive (kind : GroupKind) :
    surface.groups.operations kind =
      (surface.operations.filter fun operation => operation.groups.contains kind).map
        Operation.name :=
  (records_of_derive derived).groups kind

end Surface

end EntitySurface
