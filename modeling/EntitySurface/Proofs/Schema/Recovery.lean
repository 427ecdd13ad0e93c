import EntitySurface.Demo
import EntitySurface.Proofs.Entity.Unresolved
import EntitySurface.Proofs.Schema.Closure
import EntitySurface.Proofs.Schema.Likeness

/-!
# Recovery from failed finishing

Finishing that fails may leave some entities finalized and some properties with settings. No other
command reads them, and the next finishing settles everything anew. So once a run ends with
finishing that succeeds, it does not matter how often finishing was tried before.
-/

namespace EntitySurface

namespace Schema

/-- A schema without what finishing has given to its entities. -/
def unresolved (schema : Schema) : Schema :=
  { schema with entities := schema.entities.map Entity.unresolved }

variable {schema left right : Schema}

theorem entity?_unresolved (schema : Schema) (key : EntityKey) :
    schema.unresolved.entity? key = (schema.entity? key).map Entity.unresolved := by
  unfold entity? unresolved
  cases schema.index.position? key with
  | none => rfl
  | some position => simp

theorem replace_unresolved (schema : Schema) (key : EntityKey) (entity : Entity) :
    schema.unresolved.replace key entity.unresolved = (schema.replace key entity).unresolved := by
  unfold replace unresolved
  cases schema.index.position? key with
  | none => rfl
  | some position => simp only [List.map_set]

theorem declare_unresolved (schema : Schema) (key : EntityKey) (label : String) :
    schema.unresolved.declare key label = (schema.declare key label).unresolved := by
  simp [declare, unresolved, Entity.unresolved]

end Schema

/-! ## Commands that do not finish -/

namespace Composer

/-- The schemas differ in settings and marks only. -/
def Akin (left right : Schema) : Prop :=
  left.unresolved = right.unresolved

/-- Look-ups that a function cannot tell apart find the same up to what the function hides. -/
theorem rel_of_map_eq {α β : Type} {read : α → β} {first second : Option α}
    (same : first.map read = second.map read) :
    Option.Rel (fun one other => read one = read other) first second := by
  cases first with
  | none =>
      rw [Option.map_eq_none_iff.mp same.symm]
      exact .none
  | some one =>
      obtain ⟨other, rfl, equal⟩ := Option.map_eq_some_iff.mp same.symm
      exact .some equal.symm

/-- A change that ignores settings and marks comes to the same for entities that differ in them
only. -/
theorem sameResult_of_unresolved {one other : Entity} (change : Entity → Except Fault Entity)
    (changes : ∀ entity : Entity, change entity.unresolved = (change entity).map Entity.unresolved)
    (same : one.unresolved = other.unresolved) :
    SameResult (fun one other => one.unresolved = other.unresolved) (change one) (change other) :=
  .of_map_eq (by rw [← changes, ← changes, same])

theorem likeness_akin :
    Likeness (fun _ => True) (fun one other => one.unresolved = other.unresolved) Akin where
  phase {left right} same :=
    (congrArg Schema.phase same : left.unresolved.phase = right.unresolved.phase)
  catalog {left right} same :=
    (congrArg Schema.catalog same : left.unresolved.catalog = right.unresolved.catalog)
  contains {left right} same key :=
    (congrArg (Schema.contains · key) same :
      left.unresolved.contains key = right.unresolved.contains key)
  entity same key _ :=
    rel_of_map_eq (by rw [← Schema.entity?_unresolved, ← Schema.entity?_unresolved, same])
  replace {left right} same key _ one other entities := by
    unfold Akin
    rw [← Schema.replace_unresolved, ← Schema.replace_unresolved, same, entities]
  property entities name := by
    have found := congrArg (fun entity => (Entity.property? entity name).map Property.kind) entities
    simp only [Entity.property?_unresolved, Option.map_map] at found
    exact found
  addProperty {one other} entities property :=
    .of_map_eq (by rw [← Entity.addProperty_unresolved, ← Entity.addProperty_unresolved, entities])
  addWidget entities widget :=
    sameResult_of_unresolved (·.addWidget widget) (·.addWidget_unresolved widget) entities

/-- Changing one entity without reading its settings or its mark. -/
theorem modifyEntity_respects_akin (key : EntityKey) {change : Entity → Except Fault Entity}
    (changes : ∀ entity : Entity,
      change entity.unresolved = (change entity).map Entity.unresolved) :
    Respects Akin Eq (modifyEntity key change) (modifyEntity key change) :=
  likeness_akin.modifyEntity trivial fun _ _ same => sameResult_of_unresolved change changes same

theorem onCatalog_respects_akin (change : EStateM Fault Catalog Unit) :
    Respects Akin Eq (onCatalog change) (onCatalog change) := by
  intro left right same
  have withCatalog (catalog : Catalog) : Akin { left with catalog } { right with catalog } := by
    have changed := congrArg (fun schema : Schema => { schema with catalog }) same
    exact changed
  unfold onCatalog
  rw [likeness_akin.catalog same]
  cases change right.catalog with
  | ok done catalog => exact .ok rfl (withCatalog catalog)
  | error fault catalog => exact .error fault (withCatalog catalog)

theorem newEntity_respects_akin (space name label : String) :
    Respects Akin Eq (newEntity space name label) (newEntity space name label) := by
  refine (likeness_akin.ensureComposing _).andThen ?_
  refine (Respects.check fun _ _ _ => rfl).andThen ?_
  refine (Respects.check fun _ _ _ => rfl).andThen ?_
  refine (Respects.check fun left right same => by rw [likeness_akin.contains same]).andThen ?_
  refine (onCatalog_respects_akin _).andThen ?_
  refine (Respects.modify fun left right same => ?_).andThen ?_
  · unfold Akin
    rw [← Schema.declare_unresolved, ← Schema.declare_unresolved, same]
  · exact .pure rfl

theorem attachField_respects_akin (key : EntityKey) (field : Field) :
    Respects Akin Eq (attachField key field) (attachField key field) := by
  refine (likeness_akin.ensureComposing _).andThen ?_
  refine (Respects.check fun _ _ _ => rfl).andThen ?_
  refine (likeness_akin.requireCategory _ _ _).andThen ?_
  refine (modifyEntity_respects_akin key (·.addField_unresolved field)).andThen ?_
  split
  · exact modifyEntity_respects_akin key (·.addWidget_unresolved _)
  · exact .pure rfl

theorem ruleFault?_unresolved (key : EntityKey) (property : Property) (rule : BusinessRule) :
    ruleFault? key property.unresolved rule = ruleFault? key property rule :=
  rfl

theorem attachRule_respects_akin (key : EntityKey) (property : String) (rule : BusinessRule) :
    Respects Akin Eq (attachRule key property rule) (attachRule key property rule) := by
  refine (likeness_akin.ensureComposing _).andThen ?_
  refine (likeness_akin.requireEntity trivial).bind fun one other entities => ?_
  have found : Option.Rel (fun attached standing => attached.unresolved = standing.unresolved)
      (one.property? property) (other.property? property) :=
    rel_of_map_eq (by rw [← one.property?_unresolved, ← other.property?_unresolved, entities])
  generalize one.property? property = left at found
  generalize other.property? property = right at found
  cases found with
  | none => exact .throw _
  | @some attached standing same =>
      have fits : ruleFault? key attached rule = ruleFault? key standing rule := by
        rw [← ruleFault?_unresolved, same, ruleFault?_unresolved]
      refine (Respects.check fun _ _ _ => fits).andThen ?_
      exact modifyEntity_respects_akin key (·.addRule_unresolved property rule)

theorem declareWidget_respects_akin (key : EntityKey) (element : ElementRef) (isPrimary : Bool)
    (category : Option ChoiceKey) :
    Respects Akin Eq (declareWidget key element isPrimary category)
      (declareWidget key element isPrimary category) := by
  refine (likeness_akin.ensureComposing _).andThen ?_
  refine (likeness_akin.requireEntity trivial).bind fun one other entities => ?_
  rw [← one.resolveElement?_unresolved, ← other.resolveElement?_unresolved, entities]
  cases other.unresolved.resolveElement? element with
  | none => exact .throw _
  | some found =>
      refine (likeness_akin.requireCategory _ _ _).andThen ?_
      refine (Respects.check fun _ _ _ => rfl).andThen ?_
      exact modifyEntity_respects_akin key (·.addWidget_unresolved _)

/-- No command but finishing reads settings or marks. -/
theorem step_respects_akin {command : Command} (other : command ≠ .finish) :
    Respects Akin Eq command.step command.step := by
  cases command with
  | category category => exact (likeness_akin.ensureComposing _).andThen (onCatalog_respects_akin _)
  | entity space name label =>
      exact (newEntity_respects_akin space name label).bind fun _ _ _ => .pure rfl
  | describe key text =>
      refine (likeness_akin.ensureComposing _).andThen ?_
      exact modifyEntity_respects_akin key fun _ => rfl
  | field key field => exact attachField_respects_akin key field
  | property key property visibility =>
      exact likeness_akin.attach visibility trivial fun _ _ => trivial
  | rule key property rule => exact attachRule_respects_akin key property rule
  | hook key declaring method origin phase =>
      refine (likeness_akin.ensureComposing _).andThen ?_
      exact modifyEntity_respects_akin key (·.addHook_unresolved _)
  | widget key element isPrimary category =>
      exact declareWidget_respects_akin key element isPrimary category
  | tab key tab =>
      refine (likeness_akin.ensureComposing _).andThen ?_
      refine (Respects.check fun _ _ _ => rfl).andThen ?_
      exact modifyEntity_respects_akin key (·.addTab_unresolved tab)
  | loaderAlias key added =>
      refine (likeness_akin.ensureComposing _).andThen ?_
      exact modifyEntity_respects_akin key (·.addAlias_unresolved added)
  | finish => contradiction

end Composer

namespace Schema

open Composer

variable {left right : Schema}

theorem execute_of_akin (akin : Akin left right) {command : Command} (other : command ≠ .finish) :
    (left.execute command).2 = (right.execute command).2 ∧
      Akin (left.execute command).1 (right.execute command).1 := by
  have outcome := step_respects_akin other left right akin
  unfold execute
  generalize command.step left = leftOutcome at outcome ⊢
  generalize command.step right = rightOutcome at outcome ⊢
  cases outcome with
  | ok values rest => exact ⟨rfl, rest⟩
  | error fault rest => exact ⟨rfl, rest⟩

/-! ## Finishing -/

theorem unresolvedBinding?_unresolved (schema : Schema) :
    unresolvedBinding? schema.unresolved = unresolvedBinding? schema := by
  unfold unresolvedBinding?
  simp only [unresolved, List.findSome?_map]
  congr 1
  funext entity
  simp only [Function.comp, Entity.unresolved, List.findSome?_map]
  rfl

theorem finalizeEach_unresolved (entities : List Entity) :
    (finalizeEach (entities.map Entity.unresolved)).2 = (finalizeEach entities).2 ∧
      ((finalizeEach entities).2 = none →
        finalizeEach (entities.map Entity.unresolved) = finalizeEach entities) := by
  induction entities with
  | nil => exact ⟨rfl, fun _ => rfl⟩
  | cons entity rest ih =>
      obtain ⟨fault, final⟩ := ih
      rw [List.map_cons, finalizeEach_cons, finalizeEach_cons]
      cases outcome : entity.finalize.2 with
      | none =>
          rw [entity.finalize_unresolved outcome, Entity.finalize_eq_of_none outcome]
          exact ⟨fault, fun succeeded => by rw [final succeeded]⟩
      | some cause =>
          have refused : entity.unresolved.finalize = (entity.unresolved.finalize.1, some cause) :=
            Prod.ext rfl (entity.finalize_unresolved_fault.trans outcome)
          have stopped : entity.finalize = (entity.finalize.1, some cause) := Prod.ext rfl outcome
          rw [refused, stopped]
          exact ⟨rfl, nofun⟩

theorem finalizeEach_of_unresolved {first second : List Entity}
    (same : first.map Entity.unresolved = second.map Entity.unresolved) :
    (finalizeEach first).2 = (finalizeEach second).2 ∧
      ((finalizeEach first).2 = none → finalizeEach first = finalizeEach second) := by
  obtain ⟨firstFault, firstFinal⟩ := finalizeEach_unresolved first
  obtain ⟨secondFault, secondFinal⟩ := finalizeEach_unresolved second
  rw [same] at firstFault firstFinal
  have fault := firstFault.symm.trans secondFault
  exact ⟨fault, fun succeeded =>
    (firstFinal succeeded).symm.trans (secondFinal (fault.symm.trans succeeded))⟩

/-- Finishing that succeeds finalizes every entity and freezes the schema. -/
theorem execute_finish_eq_of_none {schema : Schema}
    (succeeded : (schema.execute .finish).2 = none) :
    (finalizeEach schema.entities).2 = none ∧ (schema.execute .finish).1 =
      { schema with entities := (finalizeEach schema.entities).1, phase := .finalized } := by
  cases phase : schema.phase with
  | finalized =>
      rw [execute_of_finalized phase] at succeeded
      contradiction
  | composing =>
      rw [execute_finish_of_composing phase] at succeeded ⊢
      cases unbound : unresolvedBinding? schema with
      | some fault =>
          rw [unbound] at succeeded
          contradiction
      | none =>
          rw [unbound] at succeeded
          rcases outcome : finalizeEach schema.entities with ⟨settled, _ | fault⟩
          · exact ⟨rfl, rfl⟩
          · rw [outcome] at succeeded
            contradiction

/-- Finishing comes to the same on schemas that differ in settings and marks only, and if it
succeeds then they do not differ any more. -/
theorem execute_finish_of_akin {left right : Schema} (akin : Akin left right) :
    (left.execute .finish).2 = (right.execute .finish).2 ∧
      ((left.execute .finish).2 = none →
        (left.execute .finish).1 = (right.execute .finish).1) := by
  have phases := likeness_akin.phase akin
  have entities : left.entities.map Entity.unresolved = right.entities.map Entity.unresolved :=
    congrArg Schema.entities akin
  obtain ⟨fault, final⟩ := finalizeEach_of_unresolved entities
  have same : (left.execute .finish).2 = (right.execute .finish).2 := by
    cases phase : right.phase with
    | finalized => rw [execute_of_finalized phase, execute_of_finalized (phases.trans phase)]
    | composing =>
        rw [execute_finish_fault phase, execute_finish_fault (phases.trans phase), fault,
          ← unresolvedBinding?_unresolved left, show left.unresolved = right.unresolved from akin,
          unresolvedBinding?_unresolved]
  refine ⟨same, fun succeeded => ?_⟩
  obtain ⟨settled, leftFinal⟩ := execute_finish_eq_of_none succeeded
  obtain ⟨-, rightFinal⟩ := execute_finish_eq_of_none (same.symm.trans succeeded)
  rw [leftFinal, rightFinal, final settled]
  have rest := congrArg (fun schema : Schema =>
    { schema with entities := (finalizeEach right.entities).1, phase := .finalized }) akin
  exact rest

/-- Finishing that fails leaves settings and marks behind and nothing else. -/
theorem akin_execute_finish (schema : Schema) {fault : Fault}
    (failed : (schema.execute .finish).2 = some fault) :
    Akin (schema.execute .finish).1 schema := by
  have kept : (finalizeEach schema.entities).1.map Entity.unresolved =
      schema.entities.map Entity.unresolved :=
    map_finalizeEach Entity.unresolved_finalize schema.entities
  cases phase : schema.phase with
  | finalized =>
      rw [execute_of_finalized phase]
      rfl
  | composing =>
      rw [execute_finish_of_composing phase] at failed ⊢
      cases unbound : unresolvedBinding? schema with
      | some fault => rfl
      | none =>
          rw [unbound] at failed
          rcases outcome : finalizeEach schema.entities with ⟨settled, _ | cause⟩
          · rw [outcome] at failed
            contradiction
          · rw [outcome] at kept
            exact congrArg (fun entities => { schema with entities }) kept

/-! ## Runs -/

/-- The commands of a run, each with the fault if it failed. -/
def record (schema : Schema) (commands : List Command) : List (Command × Option Fault) :=
  commands.zip (schema.executeAll commands).2

theorem record_cons (schema : Schema) (command : Command) (rest : List Command) :
    schema.record (command :: rest) =
      (command, (schema.execute command).2) :: (schema.execute command).1.record rest :=
  rfl

/-- A longer run goes on from the schema that the shorter one leaves. -/
theorem executeAll_concat (schema : Schema) (commands : List Command) (last : Command) :
    schema.executeAll (commands ++ [last]) =
      (((schema.executeAll commands).1.execute last).1,
        (schema.executeAll commands).2 ++ [((schema.executeAll commands).1.execute last).2]) := by
  induction commands generalizing schema with
  | nil => rfl
  | cons command rest ih => simp only [List.cons_append, executeAll, ih]

theorem record_concat (schema : Schema) (commands : List Command) (last : Command) :
    schema.record (commands ++ [last]) =
      schema.record commands ++ [(last, ((schema.executeAll commands).1.execute last).2)] := by
  induction commands generalizing schema with
  | nil => rfl
  | cons command rest ih => simp only [List.cons_append, record_cons, executeAll, ih]

end Schema

/-- Finishing was tried and failed. -/
def Command.isFailedFinish (entry : Command × Option Fault) : Bool :=
  entry.1 == .finish && entry.2.isSome

namespace Schema

open Composer

/-- A second run leaves out the finishing that fails in the first. Every command of it comes to the
same as in the first run, and the schemas never differ in more than settings and marks. -/
theorem executeAll_of_akin {left right : Schema} (akin : Akin left right)
    (commands : List Command) :
    let kept := (left.record commands).filter fun entry => !Command.isFailedFinish entry
    (right.executeAll (kept.map Prod.fst)).2 = kept.map Prod.snd ∧
      Akin (left.executeAll commands).1 (right.executeAll (kept.map Prod.fst)).1 := by
  induction commands generalizing left right with
  | nil => exact ⟨rfl, akin⟩
  | cons command rest ih =>
      rw [record_cons]
      by_cases finish : command = .finish
      · subst finish
        cases outcome : (left.execute .finish).2 with
        | some fault => exact ih ((akin_execute_finish left outcome).trans akin)
        | none =>
            obtain ⟨same, final⟩ := execute_finish_of_akin akin
            obtain ⟨outcomes, later⟩ := ih (congrArg unresolved (final outcome))
            have kept : Command.isFailedFinish (.finish, none) = false := rfl
            simp only [List.filter_cons, kept, Bool.not_false, if_true, List.map_cons, executeAll,
              outcomes, ← same, outcome, true_and]
            exact later
      · obtain ⟨same, after⟩ := execute_of_akin akin finish
        obtain ⟨outcomes, later⟩ := ih after
        have kept : Command.isFailedFinish (command, (left.execute command).2) = false := by
          simp [Command.isFailedFinish, finish]
        simp only [List.filter_cons, kept, Bool.not_false, if_true, List.map_cons, executeAll,
          outcomes, ← same, true_and]
        exact later

/-- When a run on a new schema ends with finishing that succeeds, the commands of the run without
the earlier tries to finish come to the same, each of them, and lead to the same schema with the
same settings. -/
theorem executeAll_withoutFailedFinish (name : String) (commands : List Command)
    (finished : (({ name } : Schema).record commands).getLast? = some (.finish, none)) :
    let start : Schema := { name }
    let kept := (start.record commands).filter fun entry => !Command.isFailedFinish entry
    start.executeAll (kept.map Prod.fst) = ((start.executeAll commands).1, kept.map Prod.snd) := by
  intro start kept
  rcases List.eq_nil_or_concat' commands with rfl | ⟨earlier, last, rfl⟩
  · contradiction
  · rw [record_concat, List.getLast?_concat, Option.some.injEq, Prod.mk.injEq] at finished
    obtain ⟨rfl, succeeded⟩ := finished
    have alike : Akin start start := rfl
    obtain ⟨outcomes, akin⟩ := executeAll_of_akin alike earlier
    obtain ⟨same, final⟩ := execute_finish_of_akin akin
    have kept_eq : kept = (start.record earlier).filter (fun entry => !Command.isFailedFinish entry)
        ++ [(.finish, none)] := by
      simp only [kept, record_concat, start, List.filter_append, succeeded]
      rfl
    rw [kept_eq, List.map_append, List.map_append]
    simp only [List.map_cons, List.map_nil]
    rw [executeAll_concat, executeAll_concat, outcomes, ← same, final succeeded, succeeded]

/-- Invoices that get what their identity needs only after finishing was tried, and then a link to
customers that were finalized already. -/
def retriedInvoices (tried : List Command) : List Command :=
  Demo.Sales.customers ++
    [.entity "sales" "Invoice" "Invoice",
     Demo.attach Demo.Sales.invoice (.ofKind .uniqueIdentified)] ++ tried ++
    [Demo.attach Demo.Sales.invoice (.ofKind .storedObject),
     Demo.attach Demo.Sales.invoice (.ofKind (.linkedToParent Demo.Sales.customer)),
     .finish]

/-- The try to finish is not seen in the outcome. -/
theorem executeAll_withoutFailedFinish_retriedInvoices :
    let start : Schema := { name := "sales" }
    (start.executeAll (retriedInvoices [.finish])).2 ≠
        List.replicate (retriedInvoices [.finish]).length none ∧
      (start.executeAll (retriedInvoices [])).1 = (start.executeAll (retriedInvoices [.finish])).1 ∧
      (start.executeAll (retriedInvoices [])).1.phase = .finalized := by
  have finished : (({ name := "sales" } : Schema).record (retriedInvoices [.finish])).getLast? =
      some (.finish, none) := by decide +kernel
  have commands : ((({ name := "sales" } : Schema).record (retriedInvoices [.finish])).filter
      fun entry => !Command.isFailedFinish entry).map Prod.fst = retriedInvoices [] := by
    decide +kernel
  have same := executeAll_withoutFailedFinish "sales" (retriedInvoices [.finish]) finished
  dsimp only at same
  rw [commands] at same
  exact ⟨by decide +kernel, by rw [same], by decide +kernel⟩

end Schema

end EntitySurface
