import EntitySurface.Proofs.Calendar.Date
import EntitySurface.Proofs.Search.Fitting
import EntitySurface.Proofs.Search.Meaning
import EntitySurface.Proofs.Search.Pattern
import EntitySurface.Search.Plan
import Mathlib.Data.List.Nodup

/-!
# Searching rows

What a comparison means on the row of a table, and what a user means who enters something into a
search widget. The two meet: the clause that an input contributes holds on the rows that the input
asks for.
-/

namespace EntitySurface.Search

open Calendar

/-! ## Values and rows -/

/-- What a column of a row holds. -/
inductive Value where
  | text (written : String)
  /-- A point in time: a day, and how much of it has passed. -/
  | moment (day : Date) (time : Nat)
  deriving DecidableEq

namespace Value

/-- The text of the value matches a query pattern. -/
def isLike (pattern : String) : Value → Bool
  | text written => fits (queryPieces pattern.toList) written.toList
  | moment _ _ => false

/-- The value is the one that a literal names; of a moment, it names the start of a day. -/
def equals (literal : String) : Value → Bool
  | text written => written == literal
  | moment day time =>
      match Date.parse literal with
      | .ok named => day == named && time == 0
      | .error _ => false

/-- The value does not lie before the one that a literal names. -/
def atLeast (literal : String) : Value → Bool
  | text written => literal ≤ written
  | moment day _ =>
      match Date.parse literal with
      | .ok first => !day.before first
      | .error _ => false

/-- The value does not lie after the one that a literal names. -/
def atMost (literal : String) : Value → Bool
  | text written => written ≤ literal
  | moment day time =>
      match Date.parse literal with
      | .ok last => day.before last || (day == last && time == 0)
      | .error _ => false

/-- The value lies on a day or after it; a text does when it is not less than the written day. -/
def isFrom (first : Date) : Value → Bool
  | text written => first.text ≤ written
  | moment day _ => !day.before first

/-- The value lies at the start of a day or before it; a text does when it is not greater than the
written day. -/
def isUpTo (last : Date) : Value → Bool
  | text written => written ≤ last.text
  | moment day time => day.before last || (day == last && time == 0)

theorem atLeast_text (value : Value) (first : Date) :
    value.atLeast first.text = value.isFrom first := by
  cases value <;> simp [atLeast, isFrom, Date.parse_text]

theorem atMost_text (value : Value) (last : Date) :
    value.atMost last.text = value.isUpTo last := by
  cases value <;> simp [atMost, isUpTo, Date.parse_text]

end Value

/-- A row of a table: its values by column, and which conditions in the words of the query language
are true of it. -/
structure Row where
  value? : String → Option Value
  asserts : String → Bool

namespace Row

/-- The truth of a comparison; none holds of a missing value. -/
def compares (row : Row) : Comparison → Bool
  | .like column pattern => (row.value? column).any (·.isLike pattern)
  | .equals column value => (row.value? column).any (·.equals value)
  | .between column from' to' =>
      (row.value? column).any fun value => value.atLeast from' && value.atMost to'
  | .atLeast column value => (row.value? column).any (·.atLeast value)
  | .atMost column value => (row.value? column).any (·.atMost value)

/-- The truth of conditions on a row. -/
def truth (row : Row) : Truth :=
  ⟨row.compares, row.asserts⟩

end Row

end EntitySurface.Search

namespace EntitySurface

open Calendar Search

/-! ## What a user asks for -/

/-- Nothing was entered. -/
def SearchInput.isBlank : SearchInput → Bool
  | text value | exact value => value.all Text.isAllBlank
  | choices codes => codes.isEmpty
  | dateRange from? to? => from?.all Text.isAllBlank && to?.all Text.isAllBlank

namespace PlannedWidget

/-- The column of a row matches what was entered: a text starts with the trimmed pattern, a choice
is one of the codes, a date lies within the bounds that were given, and any other column equals the
trimmed value. -/
def Admits (widget : PlannedWidget) (row : Row) (input : SearchInput) : Prop :=
  match widget.kind, input with
  | .text, .text (some pattern) =>
      ∃ written, row.value? widget.column = some (.text written) ∧
        Starts (userPieces (Text.trim pattern).toList) written.toList
  | .choice _, .choices codes =>
      ∃ value, row.value? widget.column = some value ∧ ∃ code ∈ codes, value.equals code = true
  | .dateRange, .dateRange from? to? =>
      ∃ value, row.value? widget.column = some value ∧
        (∀ written ∈ from?, Text.isAllBlank written = false →
          ∃ first, Date.parse written = .ok first ∧ value.isFrom first = true) ∧
        ∀ written ∈ to?, Text.isAllBlank written = false →
          ∃ last, Date.parse written = .ok last ∧ value.isUpTo last = true
  | .exact, .exact (some written) | .exact, .text (some written) =>
      ∃ value, row.value? widget.column = some value ∧ value.equals (Text.trim written) = true
  | _, _ => False

/-! ## Clauses -/

variable {widget : PlannedWidget} {row : Row}

/-- The clause of a text holds on the rows that start with it. -/
theorem holds_prefixPattern_iff {pattern : String} :
    (∀ clause ∈ (prefixPattern? pattern).map (.like widget.column),
        Predicate.holds row.truth clause = true) ↔
      (Text.isAllBlank pattern = false →
        ∃ written, row.value? widget.column = some (.text written) ∧
          Starts (userPieces (Text.trim pattern).toList) written.toList) := by
  rw [prefixPattern?_eq]
  split
  case isTrue empty => simp [Text.trim_eq_empty_iff.mp empty]
  case isFalse shows =>
    have entered : Text.isAllBlank pattern = false := by
      rwa [← Bool.not_eq_true, ← Text.trim_eq_empty_iff]
    have holds_iff : Predicate.holds row.truth
          (.like widget.column (String.ofList (patternChars (Text.trim pattern).toList))) = true ↔
        ∃ written, row.value? widget.column = some (.text written) ∧
          Starts (userPieces (Text.trim pattern).toList) written.toList := by
      rw [Predicate.holds]
      change (row.value? widget.column).any _ = true ↔ _
      cases row.value? widget.column with
      | none => simp
      | some value =>
          cases value with
          | text written =>
              simp [Value.isLike, String.toList_ofList, fits_patternChars_iff]
          | moment day time => simp [Value.isLike]
    simp [holds_iff, entered]

/-- The clause of a choice holds on the rows that have one of the codes. -/
theorem holds_choiceClause_iff {codes : List String} (given : codes ≠ []) :
    (∀ clause ∈ widget.choiceClause codes, Predicate.holds row.truth clause = true) ↔
      ∃ value, row.value? widget.column = some value ∧
        ∃ code ∈ codes, value.equals code = true := by
  have one : ∀ code, Predicate.holds row.truth (.equals widget.column code) = true ↔
      ∃ value, row.value? widget.column = some value ∧ value.equals code = true := by
    intro code
    simp [Predicate.holds, Row.truth, Row.compares, Option.any_eq_true]
  unfold choiceClause
  obtain ⟨first, others, rfl⟩ := List.exists_cons_of_ne_nil given
  cases others with
  | nil => simp [one]
  | cons second rest =>
      simp only [List.map_cons, Option.mem_some_iff, forall_eq', Predicate.holds_anyOf]
      rw [← List.map_cons, ← List.map_cons, List.any_map, List.any_eq_true]
      simp only [Function.comp_apply, one]
      constructor
      · rintro ⟨code, mem, value, found, equal⟩
        exact ⟨value, found, code, mem, equal⟩
      · rintro ⟨value, found, code, mem, equal⟩
        exact ⟨code, mem, value, found, equal⟩

/-- The clause of a range holds on the rows within the bounds, and without bounds there is none. -/
theorem holds_dateClause_iff {from? to? : Option Date} {clause? : Option Predicate}
    (made : widget.dateClause from? to? = .ok clause?) :
    (∀ clause ∈ clause?, Predicate.holds row.truth clause = true) ↔
      (¬ (from? = none ∧ to? = none) →
        ∃ value, row.value? widget.column = some value ∧
          (∀ first ∈ from?, value.isFrom first = true) ∧
            ∀ last ∈ to?, value.isUpTo last = true) := by
  unfold dateClause at made
  split at made
  case h_1 =>
    obtain rfl := Except.ok.inj made
    simp
  case h_2 first =>
    obtain rfl := Except.ok.inj made
    simp [Predicate.holds, Row.truth, Row.compares, Option.any_eq_true, Value.atLeast_text]
  case h_3 last =>
    obtain rfl := Except.ok.inj made
    simp [Predicate.holds, Row.truth, Row.compares, Option.any_eq_true, Value.atMost_text]
  case h_4 first last =>
    split at made
    case isTrue => contradiction
    case isFalse =>
      obtain rfl := Except.ok.inj made
      simp [Predicate.holds, Row.truth, Row.compares, Option.any_eq_true, Value.atLeast_text,
        Value.atMost_text]

/-- The clause of an exact match holds on the rows that equal what was entered. -/
theorem holds_exactClause_iff {value : Option String} :
    (∀ clause ∈ widget.exactClause value, Predicate.holds row.truth clause = true) ↔
      (value.all Text.isAllBlank = false →
        ∃ written, value = some written ∧ ∃ value, row.value? widget.column = some value ∧
          value.equals (Text.trim written) = true) := by
  cases value with
  | none => simp [exactClause]
  | some written =>
      simp only [exactClause, Option.bind_some, Text.trim_eq_empty_iff, Option.all_some]
      split
      case isTrue blank => simp [blank]
      case isFalse shows =>
        simp [shows, Predicate.holds, Row.truth, Row.compares, Option.any_eq_true]

/-- The clause of an input holds on the rows that the widget admits; blank input has none. -/
theorem holds_clause_iff {catalog : Catalog} {input : SearchInput} {clause? : Option Predicate}
    (made : widget.clause catalog input = .ok clause?) :
    (∀ clause ∈ clause?, Predicate.holds row.truth clause = true) ↔
      (input.isBlank = false → widget.Admits row input) := by
  unfold clause at made
  split at made
  case h_1 value kind =>
    obtain rfl := Except.ok.inj made
    cases value with
    | none => simp [SearchInput.isBlank]
    | some pattern =>
        simp only [SearchInput.isBlank, Option.all_some, Admits, kind]
        exact holds_prefixPattern_iff
  case h_2 category codes kind =>
    split at made
    case isTrue empty =>
      obtain rfl := Except.ok.inj made
      simp [SearchInput.isBlank, empty]
    case isFalse given =>
      split at made
      case h_1 => contradiction
      case h_2 registered found =>
        split at made
        case h_1 => contradiction
        case h_2 =>
          obtain rfl := Except.ok.inj made
          have given : codes ≠ [] := by simpa using given
          simp only [SearchInput.isBlank, Admits, kind]
          rw [holds_choiceClause_iff given]
          simp [given]
  case h_3 from? to? kind =>
    have made : widget.clause catalog (.dateRange from? to?) = .ok clause? := by
      simpa only [clause, kind] using made
    obtain ⟨first?, last?, first, last, made⟩ := (clause_dateRange_eq_ok_iff kind).mp made
    rw [holds_dateClause_iff made]
    simp only [first.forall_iff, last.forall_iff, first.eq_none_iff, last.eq_none_iff,
      SearchInput.isBlank, Admits, kind, ← Bool.and_eq_true, Bool.not_eq_true]
  case h_4 value kind =>
    obtain rfl := Except.ok.inj made
    rw [holds_exactClause_iff]
    cases value <;> simp [SearchInput.isBlank, Admits, kind]
  case h_5 value kind =>
    obtain rfl := Except.ok.inj made
    rw [holds_exactClause_iff]
    cases value <;> simp [SearchInput.isBlank, Admits, kind]
  case h_6 => contradiction

end PlannedWidget

/-! ## Plans -/

/-- A value is found where it is listed. -/
theorem Dictionary.mem_entries_of_find? {α : Type} {dictionary : Dictionary α} {key : String}
    {value : α} (found : dictionary.find? key = some value) :
    (key, value) ∈ dictionary.entries := by
  obtain ⟨before, after, split, -⟩ := List.lookup_eq_some_iff.mp found
  rw [split]
  simp

namespace SearchPlan

variable {row : Row}

/-- The clauses of the widgets hold on the rows that all of them admit. -/
theorem forall_clauses_iff {catalog : Catalog} {inputs : Dictionary SearchInput}
    {widgets : List PlannedWidget} {found : List Predicate}
    (made : clauses catalog inputs widgets = .ok found) :
    (∀ clause ∈ found, Predicate.holds row.truth clause = true) ↔
      ∀ widget ∈ widgets, ∀ input ∈ inputs.find? widget.argument,
        input.isBlank = false → widget.Admits row input := by
  induction widgets generalizing found with
  | nil =>
      obtain rfl := Except.ok.inj made
      simp
  | cons widget rest ih =>
      rw [List.forall_mem_cons]
      unfold clauses at made
      cases entered : inputs.find? widget.argument with
      | none =>
          rw [entered] at made
          simp [ih made]
      | some input =>
          rw [entered] at made
          cases first : widget.clause catalog input with
          | error fault => simp [first, bind, Except.bind] at made
          | ok clause? =>
              cases others : clauses catalog inputs rest with
              | error fault => simp [first, others, bind, Except.bind] at made
              | ok restFound =>
                  have split : clause?.toList ++ restFound = found := by
                    simpa [first, others, bind, Except.bind, pure, Except.pure] using made
                  rw [← split, List.forall_mem_append, ih others]
                  simp [← PlannedWidget.holds_clause_iff first]

/-- A joined predicate holds where all its clauses do. -/
theorem forall_conjunction_iff {truth : Truth} {clauses : List Predicate} :
    (∀ predicate ∈ conjunction clauses, Predicate.holds truth predicate = true) ↔
      ∀ clause ∈ clauses, Predicate.holds truth clause = true := by
  unfold conjunction
  split <;> simp

/-- An argument leads to its widget when no other widget has it. -/
theorem widget?_argument {plan : SearchPlan}
    (distinct : (plan.widgets.map PlannedWidget.argument).Nodup) {widget : PlannedWidget}
    (mem : widget ∈ plan.widgets) : plan.widget? widget.argument = some widget := by
  cases found : plan.widget? widget.argument with
  | none =>
      have absent := List.find?_eq_none.mp found widget mem
      simp at absent
  | some other =>
      have same : other.argument = widget.argument := by simpa using List.find?_some found
      exact congrArg some
        (List.inj_on_of_nodup_map distinct (List.mem_of_find?_eq_some found) mem same)

/-- A compiled search finds the rows of which the filter is true and which match every input. -/
theorem forall_compile_iff {plan : SearchPlan}
    (distinct : (plan.widgets.map PlannedWidget.argument).Nodup) {criteria : SearchCriteria}
    {catalog : Catalog} {compiled : CompiledSearch}
    (made : plan.compile criteria catalog = .ok compiled) :
    (∀ predicate ∈ compiled.predicate, Predicate.holds row.truth predicate = true) ↔
      (∀ filter ∈ criteria.filter?, Predicate.holds row.truth filter = true) ∧
        ∀ argument input, criteria.inputs.find? argument = some input → input.isBlank = false →
          ∃ widget, plan.widget? argument = some widget ∧ widget.Admits row input := by
  unfold compile at made
  split at made
  case h_1 => contradiction
  case h_2 known =>
    cases each : clauses catalog criteria.inputs plan.widgets with
    | error fault => simp [each, bind, Except.bind] at made
    | ok found =>
        have joined : conjunction (found ++ criteria.filter?.toList) = compiled.predicate := by
          rw [each] at made
          exact congrArg CompiledSearch.predicate (Except.ok.inj made)
        rw [← joined, forall_conjunction_iff, List.forall_mem_append, forall_clauses_iff each,
          and_comm]
        refine and_congr (by simp) ⟨?_, ?_⟩
        · intro matched argument input entered shows
          have taken := List.find?_eq_none.mp known argument
            (List.mem_map_of_mem (Dictionary.mem_entries_of_find? entered))
          rw [Option.isNone_iff_eq_none] at taken
          obtain ⟨widget, isWidget⟩ := Option.ne_none_iff_exists'.mp taken
          obtain rfl : widget.argument = argument := by simpa using List.find?_some isWidget
          exact ⟨widget, isWidget,
            matched widget (List.mem_of_find?_eq_some isWidget) input entered shows⟩
        · intro matched widget mem input entered shows
          obtain ⟨other, isWidget, admits⟩ := matched widget.argument input entered shows
          rw [widget?_argument distinct mem] at isWidget
          obtain rfl := Option.some.inj isWidget
          exact admits

end SearchPlan

end EntitySurface
