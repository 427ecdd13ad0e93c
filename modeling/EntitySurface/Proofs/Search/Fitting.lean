import EntitySurface.Proofs.Calendar.Reading
import EntitySurface.Search.Plan

/-!
# Inputs that fit their widgets

Criteria are compiled when every key leads to a widget and every input fits its widget. What fits is
said here without the compiler: any text for a text, known codes for a choice, dates in their order
for a range, and any value for an exact match.
-/

namespace EntitySurface

open Calendar

/-- What was entered as the bound of a range: blanks are no bound, and anything else has to spell a
date. -/
inductive EnteredBound : Option String → Option Date → Prop where
  | absent : EnteredBound none none
  | blank {written : String} (blank : Text.isAllBlank written = true) :
      EnteredBound (some written) none
  | date {written : String} {date : Date} (shows : Text.isAllBlank written = false)
      (spells : Spells written date) : EnteredBound (some written) (some date)

namespace EnteredBound

variable {value : Option String} {date? : Option Date}

/-- There is no bound exactly where nothing but blanks was entered. -/
theorem eq_none_iff (entered : EnteredBound value date?) :
    date? = none ↔ value.all Text.isAllBlank = true := by
  cases entered with
  | absent => simp
  | blank blank => simp [blank]
  | date shows spells => simp [shows]

/-- What holds of the bound holds of the date that was entered. -/
theorem forall_iff (entered : EnteredBound value date?) (meets : Date → Prop) :
    (∀ date ∈ date?, meets date) ↔
      ∀ written ∈ value, Text.isAllBlank written = false →
        ∃ date, Date.parse written = .ok date ∧ meets date := by
  cases entered with
  | absent => simp
  | blank blank => simp [blank]
  | date shows spells => simp [shows, parse_eq_ok_iff.mpr spells]

end EnteredBound

namespace PlannedWidget

/-- The input is of the kind of the widget, and it can be understood: the codes belong to the
category, and the bounds of a range are dates of which the first is not after the last. -/
def Fits (widget : PlannedWidget) (catalog : Catalog) (input : SearchInput) : Prop :=
  match widget.kind, input with
  | .text, .text _ | .exact, .exact _ | .exact, .text _ => True
  | .choice category, .choices codes =>
      ∀ code ∈ codes, ∃ registered, catalog.category? category = some registered ∧
        ∃ value ∈ registered.values, value.code = code
  | .dateRange, .dateRange from? to? =>
      ∃ first? last?, EnteredBound from? first? ∧ EnteredBound to? last? ∧
        ∀ first ∈ first?, ∀ last ∈ last?, last.before first = false
  | _, _ => False

variable {widget : PlannedWidget} {catalog : Catalog}

theorem bound_eq_ok_iff {value : Option String} {date? : Option Date} :
    widget.bound value = .ok date? ↔ EnteredBound value date? := by
  constructor
  · intro read
    unfold bound at read
    split at read
    · cases read
      exact .absent
    · split at read
      · next blank =>
        cases read
        exact .blank blank
      · next shows =>
        split at read
        · next date parsed =>
          cases read
          exact .date (by simpa using shows) (parse_eq_ok_iff.mp parsed)
        · contradiction
  · intro entered
    cases entered with
    | absent => rfl
    | blank blank => simp [bound, blank]
    | date shows spells => simp [bound, shows, parse_eq_ok_iff.mpr spells]

/-- The clause of a range is made of the dates that were entered. -/
theorem clause_dateRange_eq_ok_iff (kind : widget.kind = .dateRange) {from? to? : Option String}
    {clause? : Option Predicate} :
    widget.clause catalog (.dateRange from? to?) = .ok clause? ↔
      ∃ first? last?, EnteredBound from? first? ∧ EnteredBound to? last? ∧
        widget.dateClause first? last? = .ok clause? := by
  simp only [clause, kind, except_bind_eq_ok_iff, bound_eq_ok_iff]
  constructor
  · rintro ⟨first?, first, last?, last, made⟩
    exact ⟨first?, last?, first, last, made⟩
  · rintro ⟨first?, last?, first, last, made⟩
    exact ⟨first?, first, last?, last, made⟩

theorem exists_dateClause_iff {first? last? : Option Date} :
    (∃ clause?, widget.dateClause first? last? = .ok clause?) ↔
      ∀ first ∈ first?, ∀ last ∈ last?, last.before first = false := by
  unfold dateClause
  split
  case h_4 first last =>
    cases order : last.before first <;> simp [order]
  all_goals simp

theorem exists_choice_iff {category : ChoiceKey} {codes : List String}
    (kind : widget.kind = .choice category) :
    (∃ clause?, widget.clause catalog (.choices codes) = .ok clause?) ↔
      widget.Fits catalog (.choices codes) := by
  unfold clause Fits
  simp only [kind]
  cases codes with
  | nil => simp
  | cons code rest =>
      cases catalog.category? category with
      | none =>
          simp only [List.isEmpty_cons, Bool.false_eq_true, if_false, reduceCtorEq, exists_false,
            false_iff]
          intro known
          rcases known code List.mem_cons_self with ⟨registered, missing, -⟩
          contradiction
      | some registered =>
          have known_iff : ((code :: rest).find? fun other => !registered.contains other) = none ↔
              ∀ other ∈ code :: rest, ∃ value ∈ registered.values, value.code = other := by
            simp [ChoiceCategory.contains]
          cases unknown : (code :: rest).find? fun other => !registered.contains other with
          | none => simpa [unknown] using known_iff.mp unknown
          | some other =>
              rw [unknown] at known_iff
              simpa [unknown] using known_iff

/-- An input contributes to a search exactly when it fits its widget. -/
theorem exists_clause_iff {input : SearchInput} :
    (∃ clause?, widget.clause catalog input = .ok clause?) ↔ widget.Fits catalog input := by
  cases kind : widget.kind with
  | text => cases input <;> simp [clause, Fits, kind]
  | exact => cases input <;> simp [clause, Fits, kind]
  | choice category =>
      cases input with
      | choices codes => exact exists_choice_iff kind
      | _ => simp [clause, Fits, kind]
  | dateRange =>
      cases input with
      | dateRange from? to? =>
          simp only [clause_dateRange_eq_ok_iff kind, Fits, kind, ← @exists_dateClause_iff widget]
          constructor
          · rintro ⟨clause?, first?, last?, first, last, made⟩
            exact ⟨first?, last?, first, last, clause?, made⟩
          · rintro ⟨first?, last?, first, last, clause?, made⟩
            exact ⟨clause?, first?, last?, first, last, made⟩
      | _ => simp [clause, Fits, kind]

end PlannedWidget

namespace SearchPlan

variable {plan : SearchPlan} {catalog : Catalog}

theorem exists_clauses_iff {inputs : Dictionary SearchInput} {widgets : List PlannedWidget} :
    (∃ found, clauses catalog inputs widgets = .ok found) ↔
      ∀ widget ∈ widgets, ∀ input, inputs.find? widget.argument = some input →
        widget.Fits catalog input := by
  induction widgets with
  | nil => exact iff_of_true ⟨[], rfl⟩ nofun
  | cons widget rest ih =>
      rw [clauses, List.forall_mem_cons, ← ih]
      cases entered : inputs.find? widget.argument with
      | none => simp
      | some input =>
          simp only [except_bind_eq_ok_iff, Option.some.injEq, forall_eq',
            ← PlannedWidget.exists_clause_iff]
          constructor
          · rintro ⟨found, first?, first, others, later, -⟩
            exact ⟨⟨first?, first⟩, others, later⟩
          · rintro ⟨⟨first?, first⟩, others, later⟩
            exact ⟨_, first?, first, others, later, rfl⟩

/-- Criteria are compiled exactly when every key belongs to a widget and every input fits. -/
theorem exists_compile_iff {criteria : SearchCriteria} :
    (∃ compiled, plan.compile criteria catalog = .ok compiled) ↔
      (∀ argument ∈ criteria.inputs.keys, ∃ widget ∈ plan.widgets, widget.argument = argument) ∧
        ∀ widget ∈ plan.widgets, ∀ input, criteria.inputs.find? widget.argument = some input →
          widget.Fits catalog input := by
  have known_iff : criteria.inputs.keys.find? (fun argument => (plan.widget? argument).isNone) =
      none ↔ ∀ argument ∈ criteria.inputs.keys, ∃ widget ∈ plan.widgets,
        widget.argument = argument := by
    simp [widget?]
  rw [← known_iff, ← exists_clauses_iff]
  unfold compile
  cases criteria.inputs.keys.find? fun argument => (plan.widget? argument).isNone with
  | some argument => simp
  | none =>
      simp only [except_bind_eq_ok_iff, true_and]
      constructor
      · rintro ⟨compiled, found, made, -⟩
        exact ⟨found, made⟩
      · rintro ⟨found, made⟩
        exact ⟨_, found, made, rfl⟩

end SearchPlan

end EntitySurface
