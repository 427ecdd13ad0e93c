import EntitySurface.Demo
import EntitySurface.Proofs.Schema.Bindings
import EntitySurface.Proofs.Search.Fitting
import EntitySurface.Proofs.Search.Plan

/-!
# Which searches are accepted

Widgets come with fields, with properties and by declaration, and on each of these ways the category
of a choice was looked up. So the plan of a composed entity never misses a category, and what it
accepts depends on the entered keys and inputs alone.
-/

namespace EntitySurface

/-- The categories of a plan are those of the entity's widgets. -/
theorem Entity.exists_searchWidget_of_mem_plan {entity : Entity} {widget : PlannedWidget}
    (mem : widget ∈ (SearchPlan.forEntity entity).widgets) :
    ∃ shown ∈ entity.searchWidgets, shown.kind = widget.kind := by
  rcases List.mem_map.mp mem with ⟨shown, inWidgets, rfl⟩
  exact ⟨shown, inWidgets, rfl⟩

namespace Schema.Reachable

variable {schema : Schema} {entity : Entity}

/-- Criteria for an entity of a composed schema are compiled exactly when every key is the argument
of a widget and every input fits its widget: a text for a text, known codes for a choice, dates in
order for a range, an exact value or a text for an exact match. No two widgets share an argument,
and a category that is not registered is never what is wrong. -/
theorem compile_succeeds_iff (reached : schema.Reachable) (mem : entity ∈ schema.entities)
    (criteria : SearchCriteria) :
    let plan := SearchPlan.forEntity entity
    ((∃ compiled, plan.compile criteria schema.catalog = .ok compiled) ↔
      (∀ argument ∈ criteria.inputs.keys, ∃ widget ∈ plan.widgets, widget.argument = argument) ∧
        ∀ widget ∈ plan.widgets, ∀ input, criteria.inputs.find? widget.argument = some input →
          widget.Fits schema.catalog input) ∧
    (plan.widgets.map PlannedWidget.argument).Nodup ∧
    ∀ key category, plan.compile criteria schema.catalog ≠
      .error (.invalidSearchInput key (.unregisteredCategory category)) := by
  have wellFormed := reached.wellFormed.entities entity mem
  refine ⟨SearchPlan.exists_compile_iff, ?_, ?_⟩
  · simp only [SearchPlan.forEntity, List.map_map]
    exact wellFormed.widgetArguments
  · intro key category failed
    rcases SearchPlan.exists_choice_of_compile_eq_unregistered failed with
      ⟨widget, planned, kind, missing⟩
    rcases Entity.exists_searchWidget_of_mem_plan planned with ⟨shown, inWidgets, same⟩
    have registered : (schema.catalog.category? category).isSome = true :=
      (reached.bound entity mem).resolves_of_choice wellFormed inWidgets (same.trans kind)
    rw [missing] at registered
    contradiction

/-- Invoices in one of the states that are due from the end of January on. -/
def statedInvoices (codes : List String) : SearchCriteria where
  inputs := Dictionary.ofList
    [("state", .choices codes), ("duedate", .dateRange (some " 2025-1- 31") (some " "))]
  filter? := none

/-- Drafts may be searched, and a state that invoices do not have may not. -/
theorem compile_succeeds_iff_invoices :
    let schema := (({ name := "sales" } : Schema).executeAll
      (Demo.Sales.categories ++ Demo.Sales.customers ++ Demo.Sales.invoices ++ [.finish])).1
    ∃ entity ∈ schema.entities, entity.key = Demo.Sales.invoice ∧
      (∃ compiled, (SearchPlan.forEntity entity).compile (statedInvoices ["DRAFT", "PAID"])
        schema.catalog = .ok compiled) ∧
      ¬ ∃ compiled, (SearchPlan.forEntity entity).compile (statedInvoices ["DRAFT", "LOST"])
        schema.catalog = .ok compiled := by
  intro schema
  have planned : ∃ entity ∈ schema.entities, entity.key = Demo.Sales.invoice ∧
      (SearchPlan.forEntity entity).widgets =
        [⟨"nr", "NR", .text, true⟩, ⟨"state", "STATE", .choice Demo.Sales.invoiceState, true⟩,
         ⟨"duedate", "DUEDATE", .dateRange, false⟩] := by
    decide +kernel
  have registered : schema.catalog.category? Demo.Sales.invoiceState =
      some ⟨Demo.Sales.invoiceState, [⟨"DRAFT", "Draft"⟩, ⟨"SENT", "Sent"⟩, ⟨"PAID", "Paid"⟩]⟩ := by
    decide +kernel
  rcases planned with ⟨entity, mem, key, widgets⟩
  have reached := (Reachable.start "sales").executeAll
    (Demo.Sales.categories ++ Demo.Sales.customers ++ Demo.Sales.invoices ++ [.finish])
  refine ⟨entity, mem, key, ?_, ?_⟩
  · apply (reached.compile_succeeds_iff mem _).1.mpr
    rw [widgets]
    constructor
    · decide
    · simp only [List.forall_mem_cons, List.not_mem_nil, false_implies, implies_true, and_true]
      refine ⟨?_, ?_, ?_⟩
      · have absent : (statedInvoices ["DRAFT", "PAID"]).inputs.find? "nr" = none := by decide
        simp [absent]
      · intro input entered
        obtain rfl : .choices ["DRAFT", "PAID"] = input := Option.some.inj entered
        intro code chosen
        refine ⟨_, registered, ?_⟩
        revert chosen code
        decide
      · intro input entered
        obtain rfl : .dateRange (some " 2025-1- 31") (some " ") = input := Option.some.inj entered
        have first : Calendar.Spells " 2025-1- 31" ⟨2025, 1, 31, by decide⟩ :=
          Calendar.parse_eq_ok_iff.mp (by decide)
        exact ⟨_, none, .date (by decide) first, .blank (by decide), by simp⟩
  · intro compiles
    have fits := ((reached.compile_succeeds_iff mem _).1.mp compiles).2
      ⟨"state", "STATE", .choice Demo.Sales.invoiceState, true⟩ (by simp [widgets])
      (.choices ["DRAFT", "LOST"]) (by decide)
    rcases fits "LOST" (by decide) with ⟨category, found, known⟩
    rw [registered, Option.some.injEq] at found
    subst found
    revert known
    decide

end Schema.Reachable

end EntitySurface
