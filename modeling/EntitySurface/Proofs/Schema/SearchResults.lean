import EntitySurface.Demo
import EntitySurface.Proofs.Schema.Reachable
import EntitySurface.Proofs.Search.Rows

/-!
# What a search finds

The plan of an entity of a composed schema has one widget for each argument. So the predicate that
it compiles to stands for all that was entered: no clause is lost, and none is added.
-/

namespace EntitySurface

open Calendar Search

namespace Schema.Reachable

variable {schema : Schema} {entity : Entity}

/-- A compiled search finds exactly the rows of which the filter is true and which every input
admits that is not blank: a text starts with the trimmed pattern, in which `*` is any text, a choice
is one of the codes, a date lies within the bounds, any other column equals the trimmed value. -/
theorem search_finds (reached : schema.Reachable) (mem : entity ∈ schema.entities)
    {criteria : SearchCriteria} {compiled : CompiledSearch}
    (made : (SearchPlan.forEntity entity).compile criteria schema.catalog = .ok compiled)
    (row : Row) :
    (∀ predicate ∈ compiled.predicate, predicate.holds row.truth = true) ↔
      (∀ filter ∈ criteria.filter?, filter.holds row.truth = true) ∧
        ∀ argument input, criteria.inputs.find? argument = some input → input.isBlank = false →
          ∃ widget, (SearchPlan.forEntity entity).widget? argument = some widget ∧
            widget.Admits row input := by
  have distinct : ((SearchPlan.forEntity entity).widgets.map PlannedWidget.argument).Nodup := by
    simp only [SearchPlan.forEntity, List.map_map]
    exact (reached.wellFormed.entities entity mem).widgetArguments
  exact SearchPlan.forall_compile_iff distinct made

/-- Sent invoices that are due from 2025 on, with an underscore in the number. -/
def dueInvoices : SearchCriteria where
  inputs := Dictionary.ofList
    [("nr", .text (some " *_ ")), ("state", .choices ["SENT"]),
     ("duedate", .dateRange (some "2025-1-1") (some " "))]
  filter? := some (.raw "OWNER = CURRENT_USER")

/-- A sent invoice of the current user. -/
def sentInvoice (due : Date) : Row where
  value? column :=
    if column = "NR" then some (.text "INV_7")
    else if column = "STATE" then some (.text "SENT")
    else if column = "DUEDATE" then some (.moment due 0)
    else none
  asserts _ := true

/-- The number fits the pattern, the blank bound does not count, and the given one is included. -/
theorem search_finds_dueInvoices :
    let schema := (({ name := "sales" } : Schema).executeAll
      (Demo.Sales.categories ++ Demo.Sales.customers ++ Demo.Sales.invoices ++ [.finish])).1
    ∃ entity ∈ schema.entities, ∃ compiled,
      (SearchPlan.forEntity entity).compile dueInvoices schema.catalog = .ok compiled ∧
        ∀ due, (∀ predicate ∈ compiled.predicate,
            predicate.holds (sentInvoice due).truth = true) ↔
          due.before ⟨2025, 1, 1, by decide⟩ = false := by
  intro schema
  have compiles : ∃ entity ∈ schema.entities,
      ((SearchPlan.forEntity entity).compile dueInvoices schema.catalog).toOption.isSome = true ∧
        (SearchPlan.forEntity entity).widgets =
          [⟨"nr", "NR", .text, true⟩, ⟨"state", "STATE", .choice Demo.Sales.invoiceState, true⟩,
           ⟨"duedate", "DUEDATE", .dateRange, false⟩] := by
    decide +kernel
  obtain ⟨entity, mem, succeeds, widgets⟩ := compiles
  cases made : (SearchPlan.forEntity entity).compile dueInvoices schema.catalog with
  | error fault => simp [made, Except.toOption] at succeeds
  | ok compiled =>
      refine ⟨entity, mem, compiled, made, fun due => ?_⟩
      have inputs : dueInvoices.inputs.entries =
          [("duedate", .dateRange (some "2025-1-1") (some " ")), ("nr", .text (some " *_ ")),
           ("state", .choices ["SENT"])] := by decide
      have first : Date.parse "2025-1-1" = .ok ⟨2025, 1, 1, by decide⟩ := by decide
      have blank : Text.isAllBlank " " = true := by decide
      have given : Text.isAllBlank "2025-1-1" = false := by decide
      rw [((Reachable.start "sales").executeAll _).search_finds mem made]
      constructor
      · rintro ⟨-, matched⟩
        obtain ⟨widget, isWidget, admits⟩ :=
          matched "duedate" (.dateRange (some "2025-1-1") (some " ")) (by decide) (by decide)
        obtain rfl : ⟨"duedate", "DUEDATE", .dateRange, false⟩ = widget := by
          simpa [SearchPlan.widget?, widgets] using isWidget
        simpa [PlannedWidget.Admits, sentInvoice, first, blank, given, Value.isFrom] using admits
      · intro notBefore
        refine ⟨fun filter own => ?_, fun argument input entered shows => ?_⟩
        · obtain rfl : .raw "OWNER = CURRENT_USER" = filter := by simpa [dueInvoices] using own
          rfl
        · have listed := Dictionary.mem_entries_of_find? entered
          rw [inputs] at listed
          simp only [List.mem_cons, Prod.mk.injEq, List.not_mem_nil, or_false] at listed
          rcases listed with ⟨rfl, rfl⟩ | ⟨rfl, rfl⟩ | ⟨rfl, rfl⟩
          · refine ⟨⟨"duedate", "DUEDATE", .dateRange, false⟩, ?_, ?_⟩
            · simp [SearchPlan.widget?, widgets]
            · simp [PlannedWidget.Admits, sentInvoice, first, blank, given, Value.isFrom, notBefore]
          · refine ⟨⟨"nr", "NR", .text, true⟩, ?_, "INV_7", rfl, "INV_".toList, "7".toList, ?_, ?_⟩
            · simp [SearchPlan.widget?, widgets]
            · decide
            · decide
          · refine ⟨⟨"state", "STATE", .choice Demo.Sales.invoiceState, true⟩, ?_, .text "SENT",
              rfl, "SENT", List.mem_singleton_self _, ?_⟩
            · simp [SearchPlan.widget?, widgets]
            · decide

end Schema.Reachable

end EntitySurface
