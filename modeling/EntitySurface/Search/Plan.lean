import EntitySurface.Catalog
import EntitySurface.Dictionary
import EntitySurface.Entity
import EntitySurface.Search.Pattern
import EntitySurface.Search.Predicate

/-!
# Search plans

A search plan lists the searchable columns of an entity and the order of the results. Given what a
user entered, it compiles to a predicate: every widget with input contributes one clause, and the
clauses and the caller's own filter are joined by AND. Input that does not fit its widget is
refused.
-/

namespace EntitySurface

/-- A searchable column of a plan. -/
structure PlannedWidget where
  argument : String
  column : String
  kind : WidgetKind
  isPrimary : Bool
  deriving DecidableEq

/-- The order of the results. -/
structure SearchOrdering where
  column : String
  descending : Bool
  deriving DecidableEq

/-- The ordering as it stands in a query. -/
def SearchOrdering.text (ordering : SearchOrdering) : String :=
  ordering.column ++ if ordering.descending then " DESC" else " ASC"

/-- How an entity is searched. -/
structure SearchPlan where
  entity : EntityKey
  widgets : List PlannedWidget
  ordering : Option SearchOrdering
  deriving DecidableEq

/-- What a user entered, by argument, and a filter of the calling context. -/
structure SearchCriteria where
  inputs : Dictionary SearchInput
  filter? : Option Predicate

/-- A search that is ready to run. Without a predicate every row is a result. -/
structure CompiledSearch where
  predicate : Option Predicate
  ordering : Option SearchOrdering

/-- The search as the end of a query. -/
def CompiledSearch.text (search : CompiledSearch) : String :=
  "WHERE "
    ++ (match search.predicate with
      | some predicate => predicate.text
      | none => "TRUE")
    ++ match search.ordering with
      | some ordering => " ORDER BY " ++ ordering.text
      | none => ""

namespace PlannedWidget

/-- A fault of the input of this widget. -/
def refuse (widget : PlannedWidget) (problem : SearchProblem) : Fault :=
  .invalidSearchInput widget.argument problem

/-- The date of a bound; a blank bound counts as absent. -/
def bound (widget : PlannedWidget) (value : Option String) : Except Fault (Option Calendar.Date) :=
  match value with
  | none => .ok none
  | some text =>
      if Text.isAllBlank text then .ok none
      else
        match Calendar.Date.parse text with
        | .ok date => .ok (some date)
        | .error problem => .error (widget.refuse (.notDate text problem))

/-- The clause of a date range. -/
def dateClause (widget : PlannedWidget) (from? to? : Option Calendar.Date) :
    Except Fault (Option Predicate) :=
  match from?, to? with
  | none, none => .ok none
  | some from', none => .ok (some (.atLeast widget.column from'.text))
  | none, some to' => .ok (some (.atMost widget.column to'.text))
  | some from', some to' =>
      if to'.before from' then .error (widget.refuse (.reversedRange from' to'))
      else .ok (some (.between widget.column from'.text to'.text))

/-- The clause of a choice: one equality per code. -/
def choiceClause (widget : PlannedWidget) (codes : List String) : Option Predicate :=
  match codes.map fun code => Predicate.equals widget.column code with
  | [] => none
  | [equality] => some equality
  | equalities => some (.anyOf equalities)

/-- The clause of an exact match; blank input has none. -/
def exactClause (widget : PlannedWidget) (value : Option String) : Option Predicate :=
  value.bind fun text =>
    let trimmed := Text.trim text
    if trimmed = "" then none else some (.equals widget.column trimmed)

/-- The clause that an input contributes; blank input contributes none. -/
def clause (widget : PlannedWidget) (catalog : Catalog) (input : SearchInput) :
    Except Fault (Option Predicate) :=
  match widget.kind, input with
  | .text, .text value =>
      .ok ((value.bind Search.prefixPattern?).map fun pattern => .like widget.column pattern)
  | .choice category, .choices codes =>
      if codes.isEmpty then .ok none
      else
        match catalog.category? category with
        | none => .error (widget.refuse (.unregisteredCategory category))
        | some registered =>
            match codes.find? fun code => !registered.contains code with
            | some code => .error (widget.refuse (.unknownCode code category))
            | none => .ok (widget.choiceClause codes)
  | .dateRange, .dateRange from? to? => do
      let from? ← widget.bound from?
      let to? ← widget.bound to?
      widget.dateClause from? to?
  | .exact, .exact value | .exact, .text value => .ok (widget.exactClause value)
  | kind, input => .error (widget.refuse (.mismatch kind input))

end PlannedWidget

namespace SearchPlan

/-- The plan of an entity: its widgets in declaration order, newest changes or creations first. -/
def forEntity (entity : Entity) : SearchPlan :=
  { entity := entity.key
    widgets := entity.searchWidgets.map fun widget =>
      { argument := widget.argumentName, column := widget.element.column, kind := widget.kind
        isPrimary := widget.isPrimary }
    ordering :=
      if entity.hasKind .lastUpdate then some ⟨"UPDATETIME", true⟩
      else if entity.hasKind .creationLog then some ⟨"CREATETIME", true⟩
      else none }

/-- The widget that takes an argument. -/
def widget? (plan : SearchPlan) (argument : String) : Option PlannedWidget :=
  plan.widgets.find? fun widget => widget.argument == argument

/-- The clauses of the widgets that received input, in plan order. -/
def clauses (catalog : Catalog) (inputs : Dictionary SearchInput) :
    List PlannedWidget → Except Fault (List Predicate)
  | [] => .ok []
  | widget :: rest =>
      match inputs.find? widget.argument with
      | none => clauses catalog inputs rest
      | some input => do
          let first ← widget.clause catalog input
          let others ← clauses catalog inputs rest
          pure (first.toList ++ others)

/-- Join clauses by AND; a single clause stands for itself. -/
def conjunction : List Predicate → Option Predicate
  | [] => none
  | [clause] => some clause
  | clauses => some (.allOf clauses)

/-- Compile criteria against the categories of a catalog. -/
def compile (plan : SearchPlan) (criteria : SearchCriteria) (catalog : Catalog) :
    Except Fault CompiledSearch :=
  match criteria.inputs.keys.find? fun argument => (plan.widget? argument).isNone with
  | some argument => .error (.invalidSearchInput argument (.noSuchWidget plan.entity))
  | none => do
      let clauses ← clauses catalog criteria.inputs plan.widgets
      pure { predicate := conjunction (clauses ++ criteria.filter?.toList)
             ordering := plan.ordering }

end SearchPlan

end EntitySurface
