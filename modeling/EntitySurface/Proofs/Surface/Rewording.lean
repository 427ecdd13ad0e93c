import EntitySurface.Proofs.Derivation.Names
import Mathlib.Logic.Equiv.Basic

/-!
# Replacing operations in a surface

A surface tells operations apart by their names and compares whole operations only for equality.
Replacing operations one to one, under the same names and in the same groups, therefore commutes
with everything that a surface does: derivation takes the same course, up to the same conflict.
-/

namespace EntitySurface

/-- A replacement of operations that keeps them apart, their names and their groups. -/
structure Rewording (reword : Operation → Operation) : Prop where
  injective : Function.Injective reword
  name : ∀ operation, (reword operation).name = operation.name
  groups : ∀ operation, (reword operation).groups = operation.groups

theorem Rewording.id : Rewording id :=
  ⟨Function.injective_id, fun _ => rfl, fun _ => rfl⟩

/-- Exchanging two operations of one name and the same groups. -/
theorem Rewording.swap {one other : Operation} (name : one.name = other.name)
    (groups : one.groups = other.groups) : Rewording (Equiv.swap one other) := by
  refine ⟨(Equiv.swap one other).injective, fun operation => ?_, fun operation => ?_⟩
  · rw [Equiv.swap_apply_def]
    split_ifs with isOne isOther
    · rw [isOne, name]
    · rw [isOther, name]
    · rfl
  · rw [Equiv.swap_apply_def]
    split_ifs with isOne isOther
    · rw [isOne, groups]
    · rw [isOther, groups]
    · rfl

/-- The contribution with its operation replaced. -/
def Contribution.reword (reword : Operation → Operation) : Contribution → Contribution
  | .operation found => .operation (reword found)
  | other => other

theorem Contribution.map_reword_id (contributions : List Contribution) :
    contributions.map (reword id) = contributions := by
  have same : reword id = id := funext fun contribution => by cases contribution <;> rfl
  rw [same, List.map_id]

/-- Exchanging two operations does not touch contributions that avoid their name. -/
theorem Contribution.map_reword_swap {one other : Operation} (name : one.name = other.name)
    {contributions : List Contribution}
    (avoids : ∀ contribution ∈ contributions, contribution.Avoids one.name) :
    contributions.map (reword (Equiv.swap one other)) = contributions := by
  refine (List.map_congr_left fun contribution mem => ?_).trans (List.map_id _)
  have avoided := avoids contribution mem
  cases contribution with
  | operation added =>
      have notOne : added ≠ one := fun same => avoided (congrArg Operation.name same)
      have notOther : added ≠ other := fun same =>
        avoided ((congrArg Operation.name same).trans name.symm)
      exact congrArg Contribution.operation (Equiv.swap_apply_of_ne_of_ne notOne notOther)
  | page page => rfl
  | menuEntry entry => rfl
  | searchPlan plan => rfl

namespace Surface

/-- The surface with its operations replaced. -/
def reword (reword : Operation → Operation) (surface : Surface) : Surface :=
  { surface with operations := surface.operations.map reword }

theorem reword_id (surface : Surface) : surface.reword id = surface := by
  rw [reword, List.map_id]

theorem apply_eq_of_reword_eq_self {replace : Operation → Operation} {surface : Surface}
    (same : surface.reword replace = surface) {operation : Operation}
    (mem : operation ∈ surface.operations) : replace operation = operation := by
  have operations : surface.operations.map replace = surface.operations.map id := by
    rw [List.map_id]
    exact congrArg Surface.operations same
  exact List.map_inj_left.mp operations operation mem

variable {replace : Operation → Operation}

theorem addPage_reword (surface : Surface) (page : Page) :
    (surface.reword replace).addPage page =
      (surface.addPage page).map (Prod.map id (reword replace)) := by
  have found : (surface.reword replace).page? page.name = surface.page? page.name := rfl
  unfold addPage
  rw [found]
  cases surface.page? page.name with
  | none => rfl
  | some existing =>
      simp only
      split <;> rfl

theorem addMenuEntry_reword (surface : Surface) (entry : MenuEntry) :
    (surface.reword replace).addMenuEntry entry = (surface.addMenuEntry entry).reword replace := by
  unfold addMenuEntry
  rw [apply_ite (reword replace)]
  rfl

variable (rewording : Rewording replace)
include rewording

theorem addOperation_reword (surface : Surface) (operation : Operation) :
    (surface.reword replace).addOperation (replace operation) =
      (surface.addOperation operation).map (Prod.map id (reword replace)) := by
  have found : (surface.reword replace).operation? (replace operation).name =
      (surface.operation? operation.name).map replace := by
    have same : (fun other => (other.name == (replace operation).name)) ∘ replace =
        fun other : Operation => other.name == operation.name :=
      funext fun other => by simp [rewording.name]
    rw [operation?, reword, List.find?_map, same]
    rfl
  unfold addOperation
  rw [found]
  cases surface.operation? operation.name with
  | none => simp [reword, rewording.name, rewording.groups, Except.map]
  | some existing =>
      simp only [Option.map_some, rewording.injective.eq_iff, rewording.name]
      split <;> rfl

theorem absorb_reword (surface : Surface) (contribution : Contribution) :
    (surface.reword replace).absorb (contribution.reword replace) =
      (surface.absorb contribution).map (Prod.map id (reword replace)) := by
  cases contribution with
  | operation added => exact addOperation_reword rewording surface added
  | page page => exact addPage_reword surface page
  | menuEntry entry =>
      simp only [absorb, Contribution.reword, addMenuEntry_reword]
      rfl
  | searchPlan plan => rfl

theorem absorbAll_reword (surface : Surface) (contributions : List Contribution) :
    (surface.reword replace).absorbAll (contributions.map (Contribution.reword replace)) =
      (surface.absorbAll contributions).map (reword replace) := by
  induction contributions generalizing surface with
  | nil => rfl
  | cons contribution rest ih =>
      rw [List.map_cons, absorbAll, absorbAll, absorb_reword rewording]
      rcases surface.absorb contribution with fault | ⟨fresh, next⟩
      · rfl
      · exact ih next

variable {first second : Entity} {rules : List DerivationRule}
  (applies : ∀ rule ∈ rules, rule.appliesTo second = rule.appliesTo first)
  (contributed : ∀ rule ∈ rules, rule.appliesTo first = true → rule.contributions second =
    (rule.contributions first).map (List.map (Contribution.reword replace)))
include applies contributed

theorem applyRules_reword (surface : Surface) :
    applyRules second (surface.reword replace) rules =
      (applyRules first surface rules).map (reword replace) := by
  induction rules generalizing surface with
  | nil => rfl
  | cons rule rest ih =>
      have step := fun next : Surface => ih (fun other mem => applies other (.tail _ mem))
        (fun other mem => contributed other (.tail _ mem)) next
      rw [applyRules, applyRules, applies rule (.head _)]
      split
      · next applied =>
        rw [contributed rule (.head _) applied]
        cases rule.contributions first with
        | error fault => rfl
        | ok contributions =>
            simp only [Except.map, absorbAll_reword rewording]
            cases surface.absorbAll contributions with
            | error fault => rfl
            | ok next => exact step next
      · exact step surface

/-- Entities to which the same rules contribute the same up to a replacement of operations get the
same surface up to this replacement, or the same fault. -/
theorem derive_reword (key : second.key = first.key)
    (finalized : second.finalized = first.finalized) :
    derive rules second = (derive rules first).map (reword replace) := by
  unfold derive
  rw [key, finalized]
  split
  · exact applyRules_reword rewording applies contributed (empty first.key)
  · rfl

end Surface

end EntitySurface
