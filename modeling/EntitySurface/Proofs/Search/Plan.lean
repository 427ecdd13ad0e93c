import EntitySurface.Search.Plan

/-!
# How a search plan refuses criteria

Compiling criteria looks all their keys up before it reads any input. So a key is refused as unknown
exactly when it is the first one that belongs to no widget of the plan. What else is refused is the
input of a widget, and a category is only found missing by a widget that chooses from it.
-/

namespace EntitySurface

/-- A sequence fails in one of its parts. -/
theorem eq_error_or_of_bind_eq_error {α β : Type} {first : Except Fault α}
    {next : α → Except Fault β} {fault : Fault} (failed : (first >>= next) = .error fault) :
    first = .error fault ∨ ∃ value, next value = .error fault := by
  cases first with
  | error cause => exact Or.inl (congrArg Except.error (Except.error.inj failed))
  | ok value => exact Or.inr ⟨value, failed⟩

namespace PlannedWidget

/-- A fault of the input of the widget. Only a choice misses a category, and it misses its own. -/
def Raises (widget : PlannedWidget) (catalog : Catalog) (fault : Fault) : Prop :=
  ∃ problem, fault = widget.refuse problem ∧
    match problem with
    | .noSuchWidget _ | .choiceOnElement _ => False
    | .unregisteredCategory category =>
        widget.kind = .choice category ∧ catalog.category? category = none
    | .mismatch _ _ | .unknownCode _ _ | .notDate _ _ | .reversedRange _ _ => True

variable {widget : PlannedWidget} {catalog : Catalog} {fault : Fault}

theorem raises_of_bound_eq_error {value : Option String}
    (failed : widget.bound value = .error fault) : widget.Raises catalog fault := by
  unfold bound at failed
  split at failed
  · contradiction
  · split at failed
    · contradiction
    · split at failed
      · contradiction
      · exact ⟨_, (Except.error.inj failed).symm, trivial⟩

theorem raises_of_dateClause_eq_error {from? to? : Option Calendar.Date}
    (failed : widget.dateClause from? to? = .error fault) : widget.Raises catalog fault := by
  unfold dateClause at failed
  split at failed
  case h_4 =>
    split at failed
    · exact ⟨_, (Except.error.inj failed).symm, trivial⟩
    · contradiction
  all_goals contradiction

theorem raises_of_clause_eq_error {input : SearchInput}
    (failed : widget.clause catalog input = .error fault) : widget.Raises catalog fault := by
  unfold clause at failed
  split at failed
  case h_2 category codes kind =>
    split at failed
    · contradiction
    · split at failed
      · next missing =>
        exact ⟨_, (Except.error.inj failed).symm, kind, missing⟩
      · split at failed
        · exact ⟨_, (Except.error.inj failed).symm, trivial⟩
        · contradiction
  case h_3 from? to? _ =>
    rcases eq_error_or_of_bind_eq_error failed with first | ⟨from', rest⟩
    · exact raises_of_bound_eq_error first
    · rcases eq_error_or_of_bind_eq_error rest with second | ⟨to', last⟩
      · exact raises_of_bound_eq_error second
      · exact raises_of_dateClause_eq_error last
  case h_6 => exact ⟨_, (Except.error.inj failed).symm, trivial⟩
  all_goals contradiction

end PlannedWidget

namespace SearchPlan

variable {plan : SearchPlan} {catalog : Catalog} {fault : Fault}

/-- What is wrong with an input is a fault of a widget. -/
theorem exists_raises_of_clauses_eq_error {inputs : Dictionary SearchInput}
    {widgets : List PlannedWidget} (failed : clauses catalog inputs widgets = .error fault) :
    ∃ widget ∈ widgets, widget.Raises catalog fault := by
  induction widgets with
  | nil => contradiction
  | cons widget rest ih =>
      have later : clauses catalog inputs rest = .error fault →
          ∃ raising ∈ widget :: rest, raising.Raises catalog fault := by
        intro failed
        rcases ih failed with ⟨raising, mem, raises⟩
        exact ⟨raising, List.mem_cons_of_mem _ mem, raises⟩
      unfold clauses at failed
      split at failed
      · exact later failed
      · rcases eq_error_or_of_bind_eq_error failed with first | ⟨clause, rest⟩
        · exact ⟨widget, List.mem_cons_self, PlannedWidget.raises_of_clause_eq_error first⟩
        · rcases eq_error_or_of_bind_eq_error rest with others | ⟨found, last⟩
          · exact later others
          · contradiction

/-- No widget of the plan takes the argument. -/
theorem isNone_widget?_eq (plan : SearchPlan) (argument : String) :
    (plan.widget? argument).isNone =
      !(plan.widgets.map PlannedWidget.argument).contains argument := by
  rw [Bool.eq_iff_iff]
  simp [widget?]

/-- Criteria are refused for a key that no widget takes, or by a widget. -/
theorem refused_of_compile_eq_error {criteria : SearchCriteria}
    (failed : plan.compile criteria catalog = .error fault) :
    (∃ key, criteria.inputs.keys.find? (fun argument =>
        !(plan.widgets.map PlannedWidget.argument).contains argument) = some key ∧
      fault = .invalidSearchInput key (.noSuchWidget plan.entity)) ∨
    (criteria.inputs.keys.find? (fun argument =>
        !(plan.widgets.map PlannedWidget.argument).contains argument) = none ∧
      ∃ widget ∈ plan.widgets, widget.Raises catalog fault) := by
  unfold compile at failed
  simp only [isNone_widget?_eq] at failed
  split at failed
  · next key unknown => exact Or.inl ⟨key, unknown, (Except.error.inj failed).symm⟩
  · next known =>
    rcases eq_error_or_of_bind_eq_error failed with each | ⟨found, last⟩
    · exact Or.inr ⟨known, exists_raises_of_clauses_eq_error each⟩
    · contradiction

/-- A key is refused as unknown exactly when it is the first one that no widget takes. -/
theorem compile_eq_noSuchWidget_iff {key : String} {criteria : SearchCriteria} :
    plan.compile criteria catalog =
        .error (.invalidSearchInput key (.noSuchWidget plan.entity)) ↔
      criteria.inputs.keys.find? (fun argument =>
        !(plan.widgets.map PlannedWidget.argument).contains argument) = some key := by
  constructor
  · intro failed
    rcases refused_of_compile_eq_error failed with
      ⟨first, unknown, same⟩ | ⟨-, widget, -, problem, same, possible⟩
    · obtain ⟨rfl, -⟩ := Fault.invalidSearchInput.inj same
      exact unknown
    · obtain ⟨-, rfl⟩ := Fault.invalidSearchInput.inj same
      contradiction
  · intro unknown
    unfold compile
    simp only [isNone_widget?_eq, unknown]

/-- A category is found missing only if a choice of the plan is not registered. -/
theorem exists_choice_of_compile_eq_unregistered {key : String} {category : ChoiceKey}
    {criteria : SearchCriteria}
    (failed : plan.compile criteria catalog =
      .error (.invalidSearchInput key (.unregisteredCategory category))) :
    ∃ widget ∈ plan.widgets, widget.kind = .choice category ∧
      catalog.category? category = none := by
  rcases refused_of_compile_eq_error failed with
    ⟨first, -, same⟩ | ⟨-, widget, mem, problem, same, possible⟩
  · obtain ⟨-, problem⟩ := Fault.invalidSearchInput.inj same
    contradiction
  · obtain ⟨-, rfl⟩ := Fault.invalidSearchInput.inj same
    exact ⟨widget, mem, possible⟩

end SearchPlan

end EntitySurface
