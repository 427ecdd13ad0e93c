import EntitySurface.Proofs.Schema.Bindings
import EntitySurface.Proofs.Validation.Rules

/-!
# Finalized schemas are closed

Nothing in a finalized schema refers to what is missing, whenever it was looked up, so that
validation looks for missing entities, categories and columns in vain. No command is accepted any
more, so the schema stays as it is.
-/

namespace EntitySurface.Schema

variable {schema : Schema}

theorem execute_of_finalized (frozen : schema.phase = .finalized) (command : Command) :
    schema.execute command = (schema, some (.schemaFrozen command.compositionStep)) := by
  unfold execute
  rw [command.step_of_finalized frozen]

/-- Every command of a run on a finalized schema is refused. -/
theorem executeAll_of_finalized (frozen : schema.phase = .finalized) (commands : List Command) :
    schema.executeAll commands =
      (schema, commands.map fun command => some (.schemaFrozen command.compositionStep)) := by
  induction commands with
  | nil => rfl
  | cons command rest ih =>
      simp only [executeAll, execute_of_finalized frozen, ih, List.map_cons]

/-- A code is not reported when the rules that might report it are satisfied. -/
theorem code_ne_of_isValid {rules : List ValidationRule} {code : ErrorCode}
    (satisfied : ∀ rule ∈ rules, code ∈ rule.codes → (rule.check schema).isValid = true)
    {finding : ErrorFinding} (mem : finding ∈ (schema.validate rules).errors) :
    finding.code ≠ code := by
  rintro rfl
  obtain ⟨rule, inRules, reported⟩ := mem_errors_validate_iff.mp mem
  have silent := Report.isValid_iff.mp (satisfied rule inRules (code_mem_codes reported))
  rw [silent] at reported
  contradiction

namespace Reachable

variable (reached : schema.Reachable) (finalized : schema.phase = .finalized)
include reached finalized

theorem column_of_loaderAlias {entity : Entity} (mem : entity ∈ schema.entities) :
    ∀ header ∈ entity.loaderAliases, header.column ∈ entity.columns := by
  obtain ⟨before, done⟩ := reached.exists_finalize finalized entity mem
  exact Entity.column_of_finalize done

theorem isValid_checkBindings : schema.checkBindings.isValid = true :=
  isValid_checkBindings_iff.mpr fun _ mem _ stored _ inBindings =>
    reached.resolves_of_mem_bindings finalized mem stored inBindings

theorem isValid_checkLoaderAliases : schema.checkLoaderAliases.isValid = true :=
  isValid_checkLoaderAliases_iff.mpr fun _ mem header inAliases =>
    Entity.hasColumn_iff.mpr (reached.column_of_loaderAlias finalized mem header inAliases)

/-- In a finalized schema, every parameter of every property, legacy ones included, is there, every
property has its settings, every hook is put around a method of a stored property, and every loader
alias names a column. Validation finds no missing parameter and no missing column. Whatever commands
follow, each is refused under its own name and the schema stays as it is. -/
theorem closed_of_finalized :
    (∀ entity ∈ schema.entities,
      (∀ property ∈ entity.properties,
        (∀ binding ∈ property.kind.bindings,
          (∀ key, binding.target = .entity key → ∃ other ∈ schema.entities, other.key = key) ∧
          ∀ category, binding.target = .choice category →
            ∃ registered, schema.catalog.category? category = some registered) ∧
        (∃ settings, property.resolved = some settings) ∧
        ∀ hook ∈ property.hooks, ∃ origin ∈ entity.properties, origin.name = hook.origin ∧
          ∃ method ∈ origin.kind.methods, method.name = hook.method) ∧
      ∀ header ∈ entity.loaderAliases, header.column ∈ entity.columns) ∧
    (∀ finding ∈ (schema.validate ValidationRule.standard).errors,
      finding.code ≠ .unresolvedBinding ∧ finding.code ≠ .unresolvedLoaderAlias) ∧
    ∀ commands : List Command, schema.executeAll commands =
      (schema, commands.map fun command => some (.schemaFrozen command.compositionStep)) := by
  refine ⟨fun entity mem => ⟨fun property stored => ⟨fun binding inBindings => ?_, ?_, ?_⟩,
    reached.column_of_loaderAlias finalized mem⟩, fun finding mem => ⟨?_, ?_⟩,
    executeAll_of_finalized finalized⟩
  · have resolved := reached.resolves_of_mem_bindings finalized mem stored inBindings
    constructor
    · intro key same
      rw [same] at resolved
      exact reached.wellFormed.resolves_entity_iff.mp resolved
    · intro category same
      rw [same] at resolved
      exact Option.isSome_iff_exists.mp resolved
  · obtain ⟨earlier, later, split⟩ := List.append_of_mem stored
    exact ⟨_, (reached.settled finalized entity mem).resolved_eq split⟩
  · intro hook inHooks
    obtain ⟨origin, inProperties, named, method, declared⟩ :=
      reached.exists_hookOrigin finalized mem stored inHooks
    exact ⟨origin, inProperties, named, method, List.mem_of_find?_eq_some declared,
      by simpa using List.find?_some declared⟩
  · refine code_ne_of_isValid (fun rule _ reports => ?_) mem
    cases rule with
    | genericBindings => exact reached.isValid_checkBindings finalized
    | _ => simp [ValidationRule.codes] at reports
  · refine code_ne_of_isValid (fun rule _ reports => ?_) mem
    cases rule with
    | loaderAliases => exact reached.isValid_checkLoaderAliases finalized
    | _ => simp [ValidationRule.codes] at reports

end Reachable

/-- Tasks whose schedule depends on an entity that is declared after them. -/
theorem Reachable.closed_of_finalized_projects :
    let schema := (({ name := "projects" } : Schema).executeAll Demo.projects.commands).1
    schema.phase = .finalized ∧
      (∃ task ∈ schema.entities, ∃ schedule ∈ task.properties,
        schedule.kind = .schedule Demo.Projects.taskDependency ∧
          ∃ other ∈ schema.entities, other.key = Demo.Projects.taskDependency) ∧
      schema.executeAll [.describe Demo.Projects.task "A step", .finish] =
        (schema, [some (.schemaFrozen .describeEntity), some (.schemaFrozen .finish)]) := by
  intro schema
  have finalized : schema.phase = .finalized := by decide +kernel
  have scheduled : ∃ task ∈ schema.entities, ∃ schedule ∈ task.properties,
      schedule.kind = .schedule Demo.Projects.taskDependency := by
    decide +kernel
  have reached : schema.Reachable := (Reachable.start "projects").executeAll _
  obtain ⟨task, mem, schedule, stored, kind⟩ := scheduled
  obtain ⟨entities, -, frozen⟩ := reached.closed_of_finalized finalized
  have dependency : (⟨"dependency", .entity Demo.Projects.taskDependency⟩ : Binding) ∈
      schedule.kind.bindings := by
    rw [kind]
    exact List.mem_cons_self
  exact ⟨finalized, ⟨task, mem, schedule, stored, kind,
    (((entities task mem).1 schedule stored).1 _ dependency).1 _ rfl⟩, frozen _⟩

end EntitySurface.Schema
