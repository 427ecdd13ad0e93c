import EntitySurface.Search.Predicate

/-!
# What a predicate means

A predicate combines comparisons of columns and conditions in the words of the query language. Given
the truth of these, a disjunction holds when one of its items does and a conjunction when all do.
-/

namespace EntitySurface

/-- A condition on one column. -/
inductive Comparison where
  | like (column pattern : String)
  | equals (column value : String)
  | between (column from' to' : String)
  | atLeast (column value : String)
  | atMost (column value : String)
  deriving DecidableEq

/-- The column that a comparison is about. -/
def Comparison.column : Comparison → String
  | like column _ | equals column _ | between column _ _ | atLeast column _ | atMost column _ =>
      column

/-- The truth of the conditions that a predicate combines. -/
structure Truth where
  compares : Comparison → Bool
  asserts : String → Bool

namespace Predicate

/-- The predicate of one comparison. -/
def ofComparison : Comparison → Predicate
  | .like column pattern => like column pattern
  | .equals column value => equals column value
  | .between column from' to' => between column from' to'
  | .atLeast column value => atLeast column value
  | .atMost column value => atMost column value

/-- A predicate is a comparison, a condition in the words of the query language, or a list of
predicates. -/
@[elab_as_elim]
theorem induction {motive : Predicate → Prop}
    (comparison : ∀ condition, motive (ofComparison condition)) (raw : ∀ text, motive (raw text))
    (anyOf : ∀ items, (∀ item ∈ items, motive item) → motive (anyOf items))
    (allOf : ∀ items, (∀ item ∈ items, motive item) → motive (allOf items))
    (predicate : Predicate) : motive predicate :=
  @Predicate.rec motive (fun items => ∀ item ∈ items, motive item)
    (fun column pattern => comparison (.like column pattern))
    (fun column value => comparison (.equals column value))
    (fun column from' to' => comparison (.between column from' to'))
    (fun column value => comparison (.atLeast column value))
    (fun column value => comparison (.atMost column value))
    anyOf allOf raw (fun _ mem => absurd mem List.not_mem_nil)
    (fun _ _ first others => List.forall_mem_cons.mpr ⟨first, others⟩) predicate

mutual

/-- The truth of a predicate. -/
def holds (truth : Truth) : Predicate → Bool
  | like column pattern => truth.compares (.like column pattern)
  | equals column value => truth.compares (.equals column value)
  | between column from' to' => truth.compares (.between column from' to')
  | atLeast column value => truth.compares (.atLeast column value)
  | atMost column value => truth.compares (.atMost column value)
  | anyOf items => anyHolds truth items
  | allOf items => allHold truth items
  | raw text => truth.asserts text

/-- Some condition of a list is true. -/
def anyHolds (truth : Truth) : List Predicate → Bool
  | [] => false
  | item :: rest => holds truth item || anyHolds truth rest

/-- Every condition of a list is true. -/
def allHold (truth : Truth) : List Predicate → Bool
  | [] => true
  | item :: rest => holds truth item && allHold truth rest

end

variable {truth : Truth}

@[simp]
theorem holds_ofComparison (comparison : Comparison) :
    holds truth (ofComparison comparison) = truth.compares comparison := by
  cases comparison <;> simp only [ofComparison, holds]

theorem anyHolds_eq_any (items : List Predicate) :
    anyHolds truth items = items.any (holds truth) := by
  induction items with
  | nil => rfl
  | cons item rest ih => rw [anyHolds, ih, List.any_cons]

theorem allHold_eq_all (items : List Predicate) :
    allHold truth items = items.all (holds truth) := by
  induction items with
  | nil => rfl
  | cons item rest ih => rw [allHold, ih, List.all_cons]

@[simp]
theorem holds_anyOf (items : List Predicate) :
    holds truth (.anyOf items) = items.any (holds truth) := by
  rw [holds, anyHolds_eq_any]

@[simp]
theorem holds_allOf (items : List Predicate) :
    holds truth (.allOf items) = items.all (holds truth) := by
  rw [holds, allHold_eq_all]

end Predicate

end EntitySurface
