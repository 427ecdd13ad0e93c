import EntitySurface.Demo
import EntitySurface.Proofs.Entity.HookChains
import EntitySurface.Proofs.Schema.Finalized

/-!
# Bulk variants

The bulk variant of a method runs the hooks of the single variant in the same order. Each of its
invocations works on a batch, which is put together just before, and nothing else is different.
-/

namespace EntitySurface

namespace HookStatement

/-- The statement belongs to a bulk variant. -/
def isBulk : HookStatement → Bool
  | materializeBatch _ => true
  | invokeHook _ _ _ batched => batched
  | methodBody _ _ bulk => bulk

/-- The statement is the body of the method. -/
def isBody : HookStatement → Bool
  | methodBody _ _ _ => true
  | _ => false

/-- The phase of an invocation. -/
def phase? : HookStatement → Option HookPhase
  | invokeHook _ _ phase _ => some phase
  | _ => none

/-- What stands in the bulk variant for a statement of the single variant. -/
def inBulk : HookStatement → List HookStatement
  | invokeHook property label phase _ =>
      [materializeBatch property, invokeHook property label phase true]
  | methodBody method origin _ => [methodBody method origin true]
  | materializeBatch property => [materializeBatch property]

end HookStatement

namespace HookChain

/-- The one body stands after the invocations of hooks that run before it, the preliminary ones
first, and before the invocations of hooks that run after it. -/
def Ordered (chain : HookChain) : Prop :=
  ∃ before after, chain.statements =
      before ++ .methodBody chain.method chain.origin chain.bulk :: after ∧
    (∀ statement ∈ before ++ after, statement.isBody = false) ∧
    (∃ preliminary pre, before.filterMap HookStatement.phase? =
      List.replicate preliminary (.pre true) ++ List.replicate pre (.pre false)) ∧
    ∀ phase ∈ after.filterMap HookStatement.phase?, phase = .post

section Invocations

variable (bulk : Bool) (hooks : List MethodHook)

theorem filterMap_phase?_invocations :
    (hooks.flatMap (invocation bulk)).filterMap HookStatement.phase? =
      hooks.map MethodHook.phase := by
  induction hooks with
  | nil => rfl
  | cons hook rest ih =>
      rw [List.flatMap_cons, List.filterMap_append, ih]
      cases bulk <;> rfl

theorem isBulk_of_mem_invocations {statement : HookStatement}
    (mem : statement ∈ hooks.flatMap (invocation bulk)) :
    statement.isBulk = bulk ∧ statement.isBody = false := by
  obtain ⟨hook, -, inHook⟩ := List.mem_flatMap.mp mem
  cases bulk with
  | false =>
      obtain rfl := List.mem_singleton.mp inHook
      exact ⟨rfl, rfl⟩
  | true =>
      simp only [invocation, if_true, List.cons_append, List.nil_append, List.mem_cons,
        List.not_mem_nil, or_false] at inHook
      rcases inHook with rfl | rfl <;> exact ⟨rfl, rfl⟩

theorem flatMap_inBulk_invocations :
    (hooks.flatMap (invocation false)).flatMap HookStatement.inBulk =
      hooks.flatMap (invocation true) := by
  rw [List.flatMap_assoc]
  rfl

end Invocations

variable (chain : HookChain)

theorem isBulk_of_mem_statements {statement : HookStatement} (mem : statement ∈ chain.statements) :
    statement.isBulk = chain.bulk := by
  unfold statements at mem
  rcases List.mem_append.mp mem with before | bodyOrAfter
  · exact (isBulk_of_mem_invocations _ _ before).1
  · rcases List.mem_cons.mp bodyOrAfter with rfl | after
    · rfl
    · exact (isBulk_of_mem_invocations _ _ after).1

/-- The statements of the bulk variant, one after another from those of the single variant. -/
theorem statements_bulk (single : chain.bulk = false) :
    { chain with bulk := true }.statements = chain.statements.flatMap HookStatement.inBulk := by
  simp only [statements, single, List.flatMap_append, List.flatMap_cons, flatMap_inBulk_invocations]
  rfl

/-- Statements are in order if the groups hold hooks of their phases. -/
theorem ordered_of_phases (preliminary : ∀ hook ∈ chain.preliminary, hook.phase = .pre true)
    (pre : ∀ hook ∈ chain.pre, hook.phase = .pre false)
    (post : ∀ hook ∈ chain.post, hook.phase = .post) : chain.Ordered := by
  refine ⟨_, _, rfl, ?_, ?_, ?_⟩
  · intro statement mem
    rcases List.mem_append.mp mem with before | after
    · exact (isBulk_of_mem_invocations _ _ before).2
    · exact (isBulk_of_mem_invocations _ _ after).2
  · have replicated {hooks : List MethodHook} {phase : HookPhase}
        (same : ∀ hook ∈ hooks, hook.phase = phase) :
        hooks.map MethodHook.phase = List.replicate hooks.length phase :=
      List.eq_replicate_iff.mpr ⟨by simp, by simpa using same⟩
    refine ⟨chain.preliminary.length, chain.pre.length, ?_⟩
    rw [filterMap_phase?_invocations, List.map_append, replicated preliminary, replicated pre]
  · rw [filterMap_phase?_invocations]
    simpa using post

end HookChain

theorem Entity.ordered_chainAround (entity : Entity) (method origin : String) (bulk : Bool) :
    (entity.chainAround method origin bulk).Ordered := by
  apply HookChain.ordered_of_phases
  all_goals
    intro hook mem
    exact eq_of_beq (List.mem_filter.mp mem).2

namespace Schema.Reachable

variable {schema : Schema} {entity : Entity}

/-- In a finalized schema, both variants of a method that has a bulk variant can be woven. The bulk
variant has the statements of the single variant in their order, each invocation with its batch just
before it; and in both, the hooks run around the one body in the order of their phases. -/
theorem bulk_weaves_single (reached : schema.Reachable) (finalized : schema.phase = .finalized)
    (mem : entity ∈ schema.entities) {property : Property}
    (active : property ∈ entity.activeProperties) {method : AccessMethod}
    (inMethods : method ∈ property.kind.methods) (hasBulk : method.hasBulk = true) :
    ∃ single bulk,
      entity.hookChain method.name property.name false = .ok single ∧
      entity.hookChain method.name property.name true = .ok bulk ∧
      (∀ statement ∈ single.statements, statement.isBulk = false) ∧
      bulk.statements = single.statements.flatMap HookStatement.inBulk ∧
      single.Ordered ∧ bulk.Ordered := by
  have marked := (reached.settled finalized entity mem).finalized
  have names := (reached.wellFormed.entities entity mem).propertyNames
  have target (bulk : Bool) : (method.name, property.name, bulk) ∈ entity.hookTargets :=
    Entity.mem_hookTargets_iff.mpr ⟨property, active, rfl, method, inMethods, rfl, fun _ => hasBulk⟩
  refine ⟨_, _, Entity.hookChain_eq marked names (target false),
    Entity.hookChain_eq marked names (target true), ?_, ?_, ?_, ?_⟩
  · exact fun _ => HookChain.isBulk_of_mem_statements _
  · exact (entity.chainAround method.name property.name false).statements_bulk rfl
  · exact entity.ordered_chainAround _ _ false
  · exact entity.ordered_chainAround _ _ true

/-- Customers whose insertion has hooks of all three phases. -/
def stampedCustomers : List Command :=
  Demo.Sales.customers ++
    [.hook Demo.Sales.customer "LASTUPDATE" "insert" "STOREDOBJECT" .post,
     .hook Demo.Sales.customer "NAMED" "insert" "STOREDOBJECT" (.pre true), .finish]

/-- The bulk insertion of customers puts four batches together, each for the hook after it. -/
theorem bulk_weaves_single_customers :
    let schema := (({ name := "sales" } : Schema).executeAll stampedCustomers).1
    schema.phase = .finalized ∧
    (schema.entities.map fun entity =>
        (entity.hookChain "insert" "STOREDOBJECT" true).map fun bulk =>
          bulk.statements.map HookStatement.text) =
      [.ok ["materialize batch for NAMED", "NAMED: named processing (batch)",
        "materialize batch for NUMBERED", "NUMBERED: assign next number (batch)",
        "materialize batch for LASTUPDATE", "LASTUPDATE: stamp update user and time (batch)",
        "STOREDOBJECT.insert[]",
        "materialize batch for LASTUPDATE", "LASTUPDATE: lastupdate processing (batch)"]] ∧
    ∀ entity ∈ schema.entities, ∃ single bulk,
      entity.hookChain "insert" "STOREDOBJECT" false = .ok single ∧
      entity.hookChain "insert" "STOREDOBJECT" true = .ok bulk ∧
      bulk.statements = single.statements.flatMap HookStatement.inBulk := by
  have finalized : (({ name := "sales" } : Schema).executeAll stampedCustomers).1.phase =
      .finalized := by decide +kernel
  have insertion : ∀ entity ∈
      (({ name := "sales" } : Schema).executeAll stampedCustomers).1.entities,
      ∃ property ∈ entity.activeProperties, property.name = "STOREDOBJECT" ∧
        ∃ method ∈ property.kind.methods, method.name = "insert" ∧ method.hasBulk = true := by
    decide +kernel
  refine ⟨finalized, by decide +kernel, fun entity mem => ?_⟩
  obtain ⟨property, active, named, method, inMethods, insert, hasBulk⟩ := insertion entity mem
  have reached := (Reachable.start "sales").executeAll stampedCustomers
  obtain ⟨single, bulk, first, second, -, same, -⟩ :=
    reached.bulk_weaves_single finalized mem active inMethods hasBulk
  rw [named, insert] at first second
  exact ⟨single, bulk, first, second, same⟩

end Schema.Reachable

end EntitySurface
