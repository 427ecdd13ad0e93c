import EntitySurface.Proofs.Calendar.Date
import EntitySurface.Proofs.Search.Fitting

/-!
# Normal form of date ranges

The bounds of a range are read leniently, with blanks, signs and short numbers, and a predicate has
them in their written form. The written form is input as well, and it is read as the same bounds. So
one pass through a search brings a range into its normal form.
-/

namespace EntitySurface

open Calendar

/-- The first and the last value that a comparison of a range admits, as far as it names them. -/
def Predicate.bounds? : Predicate → Option (Option String × Option String)
  | .atLeast _ first => some (some first, none)
  | .atMost _ last => some (none, some last)
  | .between _ first last => some (some first, some last)
  | _ => none

/-- The written form of a bound is read as that bound. -/
theorem EnteredBound.map_text (date? : Option Date) :
    EnteredBound (date?.map Date.text) date? := by
  cases date? with
  | none => exact .absent
  | some date => exact .date date.isAllBlank_text date.spells_text

namespace PlannedWidget

variable {widget : PlannedWidget} {catalog : Catalog} {range : Predicate}

/-- A range has the dates it is made of as its bounds. -/
theorem bounds?_of_dateClause {first? last? : Option Date}
    (made : widget.dateClause first? last? = .ok (some range)) :
    range.bounds? = some (first?.map Date.text, last?.map Date.text) := by
  unfold dateClause at made
  split at made
  case h_1 => cases made
  case h_2 | h_3 =>
    cases made
    rfl
  case h_4 =>
    split at made
    case isTrue => contradiction
    case isFalse =>
      cases made
      rfl

/-- A range has the written form of the dates that were entered as its bounds, the first of them is
not after the last, and entering the bounds of the range gives the same range. -/
theorem clause_dateRange_normal (kind : widget.kind = .dateRange) {from? to? : Option String}
    (made : widget.clause catalog (.dateRange from? to?) = .ok (some range)) :
    ∃ first? last?, EnteredBound from? first? ∧ EnteredBound to? last? ∧
      range.bounds? = some (first?.map Date.text, last?.map Date.text) ∧
        widget.clause catalog (.dateRange (first?.map Date.text) (last?.map Date.text)) =
          .ok (some range) ∧
        ∀ first ∈ first?, ∀ last ∈ last?, last.before first = false := by
  obtain ⟨first?, last?, first, last, ofDates⟩ := (clause_dateRange_eq_ok_iff kind).mp made
  refine ⟨first?, last?, first, last, bounds?_of_dateClause ofDates, ?_,
    exists_dateClause_iff.mp ⟨_, ofDates⟩⟩
  exact (clause_dateRange_eq_ok_iff kind).mpr
    ⟨first?, last?, .map_text first?, .map_text last?, ofDates⟩

/-- The widget of a due date. -/
def dueDate : PlannedWidget :=
  { argument := "duedate", column := "DUEDATE", kind := .dateRange, isPrimary := false }

/-- Years before the first one and of two digits get their four digits at once. -/
theorem clause_dateRange_normal_dueDate :
    let range : Predicate := .between "DUEDATE" "-0001-02-03" "0012-12-31"
    dueDate.kind = .dateRange ∧
      dueDate.clause {} (.dateRange (some " -1- 2-3") (some "12-12-31")) = .ok (some range) ∧
        dueDate.clause {} (.dateRange (some "-0001-02-03") (some "0012-12-31")) =
          .ok (some range) := by
  intro range
  have made : dueDate.clause {} (.dateRange (some " -1- 2-3") (some "12-12-31")) =
      .ok (some range) := rfl
  obtain ⟨first?, last?, -, -, bounds, again, -⟩ := clause_dateRange_normal rfl made
  obtain ⟨sameFirst, sameLast⟩ := Prod.mk.inj (Option.some.inj bounds)
  rw [← sameFirst, ← sameLast] at again
  exact ⟨rfl, made, again⟩

end PlannedWidget

end EntitySurface
