import EntitySurface.HookChain
import EntitySurface.Proofs.Schema.Finalized
import EntitySurface.Proofs.Surface.Conflicts

/-!
# Finishing that stops half-way

Finishing finalizes the entities one after another and stops at the first one that it cannot
finalize. The entities before that one stay finalized, although the schema can still be changed. So
at any time the finalized entities of a schema are its first ones, as many as the finishing that
came furthest has got through, and these are the entities from which surfaces and hook chains can be
derived.
-/

namespace EntitySurface

namespace Entity

/-- A finalization with a fault settles properties and leaves the mark as it is. -/
theorem finalize_eq_of_fault {entity : Entity} {fault : Fault}
    (failed : entity.finalize.2 = some fault) :
    entity.finalize.1 = { entity with properties := entity.settling.1 } := by
  unfold finalize settling at *
  revert failed
  rcases Property.settleFrom entity.key entity.properties [] entity.properties with
    ⟨properties, _ | cause⟩
  · dsimp only
    split
    · exact fun _ => rfl
    · split
      · exact fun _ => rfl
      · nofun
  · exact fun _ => rfl

/-- An addition leaves the mark as it is. -/
theorem Addition.finalized_eq {schema : Schema} {entity grown : Entity}
    (added : Addition schema entity grown) : grown.finalized = entity.finalized := by
  cases added with
  | rule found fits added => rcases eq_or_eq_withRule added with rfl | rfl <;> rfl
  | hook added => rw [← (addHook_eq_ok_iff.mp added).2]; rfl
  | widget resolved added => rw [addWidget_ok_eq added]
  | tab identifier added => rw [← (addTab_eq_ok_iff.mp added).2.2]
  | loaderAlias added => rw [← (addAlias_eq_ok_iff.mp added).2]
  | _ => rfl

end Entity

namespace Composer

/-- The entities that finalization gets through before its first fault. -/
def finalizable (entities : List Entity) : List Entity :=
  entities.takeWhile fun entity => entity.finalize.2.isNone

theorem map_finalized_finalizeEach (entities : List Entity) :
    (finalizeEach entities).1.map Entity.finalized =
      List.replicate (finalizable entities).length true ++
        (entities.map Entity.finalized).drop (finalizable entities).length := by
  induction entities with
  | nil => rfl
  | cons entity rest ih =>
      rw [Schema.finalizeEach_cons, finalizable, List.takeWhile_cons]
      rcases outcome : entity.finalize with ⟨changed, _ | fault⟩
      · have marked : changed.finalized = true := by
          have succeeded : entity.finalize.2 = none := by rw [outcome]
          have done := Entity.finalize_eq_of_none succeeded
          rw [outcome, Prod.mk.injEq] at done
          rw [done.1]
        simpa [marked, List.replicate_succ, finalizable] using ih
      · have unmarked : changed.finalized = entity.finalized := by
          have failed : entity.finalize.2 = some fault := by rw [outcome]
          have stopped := Entity.finalize_eq_of_fault failed
          rw [outcome] at stopped
          dsimp only at stopped
          rw [stopped]
        simp [unmarked]

/-- Finalization stops at the first entity with a fault and leaves the entities after it alone. -/
theorem finalizeEach_eq_of_fault {entities : List Entity} {fault : Fault}
    (failed : (finalizeEach entities).2 = some fault) :
    ∃ done stopped rest, entities = done ++ stopped :: rest ∧
      (∀ entity ∈ done, entity.finalize.2 = none) ∧ stopped.finalize.2 = some fault ∧
      (finalizeEach entities).1 = done.map (fun entity =>
          { entity with properties := entity.settling.1, finalized := true }) ++
        { stopped with properties := stopped.settling.1 } :: rest := by
  induction entities with
  | nil => contradiction
  | cons entity rest ih =>
      rw [Schema.finalizeEach_cons] at failed ⊢
      cases outcome : entity.finalize.2 with
      | none =>
          have changed := Entity.finalize_eq_of_none outcome
          rw [changed] at failed ⊢
          obtain ⟨done, stopped, others, rfl, through, fault, settled⟩ := ih failed
          refine ⟨entity :: done, stopped, others, rfl, ?_, fault, ?_⟩
          · exact List.forall_mem_cons.mpr ⟨outcome, through⟩
          · simp only [settled, List.map_cons, List.cons_append]
      | some cause =>
          have stopped := Entity.finalize_eq_of_fault outcome
          have split : entity.finalize = (entity.finalize.1, some cause) :=
            Prod.ext rfl outcome
          rw [split] at failed ⊢
          obtain rfl := Option.some.inj failed
          exact ⟨[], entity, rest, rfl, by simp, outcome, by simp [stopped]⟩

end Composer

namespace Schema

open Composer

variable {schema after : Schema} {count : Nat}

/-- Exactly the first `count` entities are finalized. -/
def MarkedUpTo (schema : Schema) (count : Nat) : Prop :=
  ∃ rest, schema.entities.map Entity.finalized =
    List.replicate count true ++ List.replicate rest false

/-- The number of entities that a command finalizes. -/
def finalizedBy (schema : Schema) : Command → Nat
  | .finish =>
      if schema.phase = .composing ∧ unresolvedBinding? schema = none then
        (finalizable schema.entities).length
      else 0
  | _ => 0

/-- The greatest number of entities that a command of a run finalizes. -/
def finalizedDuring (schema : Schema) : List Command → Nat
  | [] => 0
  | command :: rest =>
      max (schema.finalizedBy command) ((schema.execute command).1.finalizedDuring rest)

namespace MarkedUpTo

variable {entity : Entity}

theorem finalized_iff (marked : schema.MarkedUpTo count) {position : Nat}
    (stored : schema.entities[position]? = some entity) :
    entity.finalized = true ↔ position < count := by
  obtain ⟨rest, marks⟩ := marked
  have mark : (schema.entities.map Entity.finalized)[position]? = some entity.finalized := by
    rw [List.getElem?_map, stored, Option.map_some]
  rw [marks, List.getElem?_append, List.length_replicate] at mark
  split at mark
  · next before =>
    rw [List.getElem?_replicate, if_pos before, Option.some.injEq] at mark
    simp [← mark, before]
  · next beyond =>
    rw [List.getElem?_replicate] at mark
    split at mark
    · rw [Option.some.injEq] at mark
      simp [← mark, beyond]
    · contradiction

theorem of_marks (marked : schema.MarkedUpTo count)
    (same : after.entities.map Entity.finalized = schema.entities.map Entity.finalized) :
    after.MarkedUpTo count := by
  unfold MarkedUpTo at marked ⊢
  rwa [same]

/-- Growth marks no entity. -/
theorem grow (marked : schema.MarkedUpTo count) (growth : Growth schema after) :
    after.MarkedUpTo count := by
  induction growth with
  | refl => exact marked
  | @step last key found grown growth known added ih =>
      refine ih.of_marks ?_
      obtain ⟨position, entered, stored⟩ := entity?_eq_some_iff_getElem?.mp known
      obtain ⟨inRange, rfl⟩ := List.getElem?_eq_some_iff.mp stored
      rw [replace_eq entered, List.map_set, added.finalized_eq,
        ← List.getElem_map Entity.finalized, List.set_getElem_self]
      simpa using inRange

/-- A new entity is not finalized. -/
theorem declare (marked : schema.MarkedUpTo count) (key : EntityKey) (label : String) :
    (schema.declare key label).MarkedUpTo count := by
  obtain ⟨rest, marks⟩ := marked
  refine ⟨rest + 1, ?_⟩
  rw [Schema.declare, List.map_append, marks, List.replicate_succ', List.append_assoc]
  rfl

theorem finalizeEach (marked : schema.MarkedUpTo count) :
    ∃ rest, (finalizeEach schema.entities).1.map Entity.finalized =
      List.replicate (max count (finalizable schema.entities).length) true ++
        List.replicate rest false := by
  obtain ⟨rest, marks⟩ := marked
  rw [map_finalized_finalizeEach, marks, List.drop_append, List.drop_replicate,
    List.drop_replicate, ← List.append_assoc, List.replicate_append_replicate,
    List.length_replicate]
  refine ⟨rest - ((finalizable schema.entities).length - count), ?_⟩
  rw [show (finalizable schema.entities).length + (count - (finalizable schema.entities).length) =
    max count (finalizable schema.entities).length by omega]

theorem execute_finish (marked : schema.MarkedUpTo count) :
    (schema.execute .finish).1.MarkedUpTo (max count (schema.finalizedBy .finish)) := by
  unfold execute finalizedBy
  simp only [Command.step]
  cases phase : schema.phase with
  | finalized =>
      rw [finish, bind_of_error (ensureComposing_of_finalized _ phase)]
      simpa using marked
  | composing =>
      rw [finish_eq phase]
      cases unbound : unresolvedBinding? schema with
      | some fault => simpa using marked
      | none =>
          have through := marked.finalizeEach
          rw [if_pos ⟨rfl, rfl⟩]
          rcases settled : Composer.finalizeEach schema.entities with ⟨entities, _ | fault⟩
          · rw [settled] at through
            exact through
          · rw [settled] at through
            exact through

/-- Registering a category leaves the entities alone. -/
theorem entities_execute_category (schema : Schema) (category : ChoiceCategory) :
    (schema.execute (.category category)).1.entities = schema.entities := by
  unfold Schema.execute
  simp only [Command.step, registerCategory]
  cases phase : schema.phase with
  | finalized => rw [bind_of_error (ensureComposing_of_finalized _ phase)]
  | composing =>
      rw [bind_of_ok (ensureComposing_of_composing _ phase), onCatalog]
      cases Catalog.registerCategory category schema.catalog <;> rfl

/-- Executing a command marks the entities that it finalizes and unmarks none. -/
theorem execute (wellFormed : schema.WellFormed) (marked : schema.MarkedUpTo count)
    (command : Command) :
    (schema.execute command).1.MarkedUpTo (max count (schema.finalizedBy command)) := by
  cases adds : command.addsToEntities with
  | false =>
      cases command with
      | finish => exact marked.execute_finish
      | category category =>
          have same := congrArg (List.map Entity.finalized)
            (entities_execute_category schema category)
          simpa [finalizedBy] using marked.of_marks same
      | _ => contradiction
  | true =>
      have unmarked : schema.finalizedBy command = 0 := by
        cases command <;> first | rfl | contradiction
      rw [unmarked, Nat.max_zero, Schema.execute]
      cases outcome : command.step schema with
      | error fault changed =>
          rw [command.allOrNothing wellFormed adds fault changed outcome]
          exact marked
      | ok done changed =>
          cases command.extension_of_ok wellFormed adds outcome with
          | grown growth => exact marked.grow growth
          | declared namespaced identifier fresh label =>
              have catalogued : MarkedUpTo { schema with catalog := _ } count := marked
              exact catalogued.declare _ label

theorem executeAll (reached : schema.Reachable) (marked : schema.MarkedUpTo count)
    (commands : List Command) :
    (schema.executeAll commands).1.MarkedUpTo (max count (schema.finalizedDuring commands)) := by
  induction commands generalizing schema count with
  | nil => simpa [finalizedDuring, Schema.executeAll] using marked
  | cons command rest ih =>
      rw [finalizedDuring, ← Nat.max_assoc]
      exact ih (reached.step command) (marked.execute reached.wellFormed command)

/-- Where only the first entities are finalized, none is exactly when their number is zero. -/
theorem forall_unfinalized_iff (marked : schema.MarkedUpTo count) :
    (∀ entity ∈ schema.entities, entity.finalized = false) ↔ count = 0 := by
  obtain ⟨rest, marks⟩ := id marked
  constructor
  · intro unfinalized
    cases count with
    | zero => rfl
    | succ more =>
        have first : true ∈ schema.entities.map Entity.finalized := by simp [marks]
        obtain ⟨entity, mem, finalized⟩ := List.mem_map.mp first
        rw [unfinalized entity mem] at finalized
        contradiction
  · rintro rfl entity mem
    have mark : entity.finalized ∈ schema.entities.map Entity.finalized :=
      List.mem_map_of_mem mem
    rw [marks] at mark
    simpa using List.eq_of_mem_replicate mark

end MarkedUpTo

/-- Finishing is refused with the schema as it is, or it stops at an entity: then it has finalized
the entities before that one and has settled some of the properties of that one. -/
theorem execute_finish_of_fault {fault : Fault} (failed : (schema.execute .finish).2 = some fault) :
    (schema.execute .finish).1 = schema ∨
      unresolvedBinding? schema = none ∧ ∃ done stopped rest,
        schema.entities = done ++ stopped :: rest ∧
        (∀ entity ∈ done, entity.finalize.2 = none) ∧ stopped.finalize.2 = some fault ∧
        (schema.execute .finish).1 = { schema with
          entities := done.map (fun entity =>
              { entity with properties := entity.settling.1, finalized := true }) ++
            { stopped with properties := stopped.settling.1 } :: rest } := by
  unfold execute at failed ⊢
  simp only [Command.step] at failed ⊢
  cases phase : schema.phase with
  | finalized =>
      rw [finish, bind_of_error (ensureComposing_of_finalized _ phase)]
      exact Or.inl rfl
  | composing =>
      rw [finish_eq phase] at failed ⊢
      cases unbound : unresolvedBinding? schema with
      | some fault => exact Or.inl rfl
      | none =>
          rw [unbound] at failed
          rcases settled : finalizeEach schema.entities with ⟨entities, _ | cause⟩
          · simp [settled] at failed
          · have same : cause = fault := by simpa [settled] using failed
            subst same
            obtain ⟨done, stopped, rest, split, through, refused, outcome⟩ :=
              finalizeEach_eq_of_fault (congrArg Prod.snd settled)
            rw [settled] at outcome
            dsimp only at outcome
            subst outcome
            refine Or.inr ⟨rfl, done, stopped, rest, split, through, refused, ?_⟩
            simp only [phase]

end Schema

/-! ## What is accepted of a schema -/

/-- No rule of derivation asks whether the entity is finalized. -/
theorem DerivationRule.contributions_ne_notFinalized {rule : DerivationRule} {entity : Entity}
    {key : EntityKey} : rule.contributions entity ≠ .error (.entityNotFinalized key) := by
  cases rule
  case targetDate =>
    simp only [contributions, Derivation.targetDate]
    split <;> simp
  case parentLinks =>
    simp only [contributions, Derivation.parentChanges]
    split <;> simp
  case deletion =>
    simp only [contributions, Derivation.deletion]
    repeat' split
    all_goals simp
  all_goals simp [contributions]

theorem Surface.derive_eq_notFinalized_iff {rules : List DerivationRule} {entity : Entity} :
    derive rules entity = .error (.entityNotFinalized entity.key) ↔ entity.finalized = false := by
  cases finalized : entity.finalized with
  | false => simp [derive, finalized]
  | true =>
      simp only [Bool.true_eq_false, iff_false]
      intro failed
      rcases derive_eq_error finalized failed with ⟨rule, -, -, refused⟩ |
        ⟨name, first, second, -, -, -, conflict⟩
      · exact rule.contributions_ne_notFinalized refused
      · contradiction

theorem Entity.hookChain_eq_notFinalized_iff {entity : Entity} {method origin : String}
    {bulk : Bool} :
    entity.hookChain method origin bulk = .error (.entityNotFinalized entity.key) ↔
      entity.finalized = false := by
  unfold hookChain
  cases entity.finalized with
  | false => simp
  | true =>
      simp only [Bool.not_true, Bool.false_eq_true, if_false, Bool.true_eq_false, iff_false]
      split <;> simp

namespace Schema

open Composer

/-- In every schema that a run leads to, the finalized entities are the first ones, as many as the
finishing of the run that came furthest has got through; these are the ones from which surfaces and
hook chains can be derived. So the entities are finalized exactly when the schema is, unless the
schema is still being composed and some finishing has got through an entity. Finishing that fails
leaves the schema as it is, or it stops at an entity: then the entities before that one are
finalized, and properties of that one are settled. -/
theorem marked_executeAll (name : String) (commands : List Command) :
    let start : Schema := { name }
    let schema := (start.executeAll commands).1
    let count := start.finalizedDuring commands
    (∀ position entity, schema.entities[position]? = some entity →
      (entity.finalized = true ↔ position < count) ∧
      (∀ rules, Surface.derive rules entity = .error (.entityNotFinalized entity.key) ↔
        count ≤ position) ∧
      ∀ method origin bulk, entity.hookChain method origin bulk =
        .error (.entityNotFinalized entity.key) ↔ count ≤ position) ∧
    ((∀ entity ∈ schema.entities, entity.finalized = schema.isFinalized) ↔
      schema.phase = .finalized ∨ count = 0) ∧
    ∀ fault, (schema.execute .finish).2 = some fault →
      (schema.execute .finish).1 = schema ∨
        unresolvedBinding? schema = none ∧ ∃ done stopped rest,
          schema.entities = done ++ stopped :: rest ∧
          (∀ entity ∈ done, entity.finalize.2 = none) ∧ stopped.finalize.2 = some fault ∧
          (schema.execute .finish).1 = { schema with
            entities := done.map (fun entity =>
                { entity with properties := entity.settling.1, finalized := true }) ++
              { stopped with properties := stopped.settling.1 } :: rest } := by
  intro start schema count
  have reached : schema.Reachable := (Reachable.start name).executeAll commands
  have marked : schema.MarkedUpTo count := by
    have started : start.MarkedUpTo 0 := ⟨0, rfl⟩
    simpa using started.executeAll (Reachable.start name) commands
  refine ⟨fun position entity stored => ?_, ?_, fun fault => execute_finish_of_fault⟩
  · have finalized := marked.finalized_iff stored
    have unfinalized : entity.finalized = false ↔ count ≤ position := by
      rw [← Bool.not_eq_true, finalized, Nat.not_lt]
    exact ⟨finalized, fun _ => Surface.derive_eq_notFinalized_iff.trans unfinalized,
      fun _ _ _ => Entity.hookChain_eq_notFinalized_iff.trans unfinalized⟩
  · cases phase : schema.phase with
    | finalized =>
        have done : ∀ entity ∈ schema.entities, entity.finalized = schema.isFinalized := by
          intro entity mem
          rw [(reached.settled phase entity mem).finalized]
          simp [isFinalized, phase]
        simpa using done
    | composing =>
        have composing : schema.isFinalized = false := by simp [isFinalized, phase]
        rw [composing, marked.forall_unfinalized_iff]
        simp

/-- Customers with invoices that lack what their identity needs. -/
def unstoredInvoices : List Command :=
  Demo.Sales.customers ++
    [.entity "sales" "Invoice" "Invoice",
     Demo.attach Demo.Sales.invoice (.ofKind .uniqueIdentified),
     .finish]

/-- When finishing stops at the invoices, the customers stay finalized: their surface is derived
while the schema is still being composed. -/
theorem marked_executeAll_unstoredInvoices :
    let start : Schema := { name := "sales" }
    let schema := (start.executeAll unstoredInvoices).1
    schema.phase = .composing ∧ start.finalizedDuring unstoredInvoices = 1 ∧
      (¬∀ entity ∈ schema.entities, entity.finalized = schema.isFinalized) ∧
      ∃ customers, schema.entities[0]? = some customers ∧
        Surface.derive DerivationRule.standard customers ≠
          .error (.entityNotFinalized customers.key) := by
  have composing : (({ name := "sales" } : Schema).executeAll unstoredInvoices).1.phase =
      .composing := by decide +kernel
  have count : ({ name := "sales" } : Schema).finalizedDuring unstoredInvoices = 1 := by
    decide +kernel
  have stored : (({ name := "sales" } : Schema).executeAll
      unstoredInvoices).1.entities[0]?.isSome = true := by decide +kernel
  obtain ⟨accepted, agrees, -⟩ := marked_executeAll "sales" unstoredInvoices
  dsimp only
  rw [count] at accepted agrees ⊢
  -- The run is not to be evaluated again.
  generalize (({ name := "sales" } : Schema).executeAll unstoredInvoices).1 = schema
    at composing stored accepted agrees ⊢
  obtain ⟨customers, first⟩ := Option.isSome_iff_exists.mp stored
  refine ⟨composing, rfl, by simp [agrees, composing], customers, first, fun refused => ?_⟩
  have beyond := ((accepted 0 customers first).2.1 DerivationRule.standard).mp refused
  exact absurd beyond (by decide)

end Schema

end EntitySurface
