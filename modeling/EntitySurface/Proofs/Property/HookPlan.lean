import EntitySurface.Property.Settling
import EntitySurface.Proofs.Entity.Columns

/-!
# Planned hooks

The built-in hooks of a property are planned by its kind and its rules alone. Settling a property
succeeds exactly when its preconditions are met and every planned hook has an origin; which siblings
were settled before does not matter for this.
-/

namespace EntitySurface

namespace PropertyKind

variable {kind : PropertyKind}

theorem tag_eq_storedObject_iff : kind.tag = .storedObject ↔ kind = .storedObject := by
  cases kind <;> simp [tag]

theorem tag_eq_numbered_iff : kind.tag = .numbered ↔ kind = .numbered := by
  cases kind <;> simp [tag]

theorem tag_eq_linkedToParent_iff :
    kind.tag = .linkedToParent ↔ ∃ parent, kind = .linkedToParent parent := by
  cases kind <;> simp [tag]

end PropertyKind

/-- A property without its settings. -/
def Property.unresolved (property : Property) : Property :=
  { property with resolved := none }

/-! ## What settling a property comes to -/

/-- A built-in hook before its origin is looked up. -/
structure HookPlan where
  method : String
  /-- The kind of the sibling whose method is meant. -/
  tag : PropertyTag
  phase : HookPhase
  label : String

namespace Siblings

theorem has_iff {siblings : Siblings} {tag : PropertyTag} :
    siblings.has tag = true ↔ ∃ property ∈ siblings.all, property.tag = tag := by
  simp [has]

theorem has_eq_isSome_first? (siblings : Siblings) (tag : PropertyTag) :
    siblings.has tag = (siblings.first? tag).isSome := by
  rw [Bool.eq_iff_iff]
  simp [has, first?]

end Siblings

namespace Property

/-- The built-in hooks that a property puts around methods of its siblings. -/
def hookPlans (property : Property) : List HookPlan :=
  match property.kind with
  | .numbered =>
      if property.isAutomaticNumbering then
        [⟨"insert", .storedObject, .pre false, "assign next number"⟩]
      else []
  | .lifecycle _ => [⟨"insert", .storedObject, .pre false, "set default state"⟩]
  | .schedule _ => [⟨"reschedule", .timeSlot, .post, "propagate plan to dependent objects"⟩]
  | .linkedToParent _ => [⟨"insert", .storedObject, .pre false, "check parent is set"⟩]
  | .linkObject _ _ =>
      if property.linkConstraints.isEmpty then []
      else [⟨"insert", .storedObject, .pre false, "check link constraints"⟩]
  | .iterated =>
      [⟨"update", .uniqueIdentified, .pre true, "load previous iteration"⟩,
       ⟨"update", .uniqueIdentified, .post, "archive previous iteration"⟩]
  | .versioned => [⟨"insert", .storedObject, .post, "initialize first version"⟩]
  | .simpleTaskWorkflow => [⟨"changestate", .lifecycle, .post, "generate workflow tasks"⟩]
  | .creationLog => [⟨"insert", .storedObject, .pre false, "stamp creation user and time"⟩]
  | .lastUpdate =>
      [⟨"insert", .storedObject, .pre false, "stamp update user and time"⟩,
       ⟨"update", .uniqueIdentified, .pre false, "stamp update user and time"⟩]
  | _ => []

/-- The hook of a plan, if its origin is there. -/
def plannedHook? (property : Property) (siblings : Siblings) (plan : HookPlan) :
    Option MethodHook :=
  (siblings.first? plan.tag).map fun origin =>
    { declaring := property.name, method := plan.method, origin := origin.name
      phase := plan.phase, label := plan.label }

/-- The hooks of all plans whose origin is there. -/
def plannedHooks (property : Property) (siblings : Siblings) : List MethodHook :=
  property.hookPlans.filterMap (property.plannedHook? siblings)

/-- The settings of a property apart from its hooks. -/
def plainSettings (property : Property) (siblings : Siblings) : ResolvedSettings :=
  match property.kind with
  | .storedObject => { extraArguments := insertArguments siblings }
  | .numbered =>
      match numberingScope? siblings with
      | some (link, argument, parent) =>
          { extraArguments := [{ method := "renumber", name := argument, type := .objectId parent }]
            automaticNumbering := property.isAutomaticNumbering
            numberingScope := some link }
      | none => { automaticNumbering := property.isAutomaticNumbering }
  | .linkedToParent _ => { parentArgument := some (parentArgumentName property.name) }
  | _ => {}

/-- Apart from the preconditions, settling puts the planned hooks beside the other settings. -/
theorem settle_eq {property : Property} {siblings : Siblings}
    (present : property.missingPrecondition? siblings = none) :
    property.settle siblings =
      (fun hooks => { property.plainSettings siblings with hooks }) <$>
        property.hookPlans.mapM fun plan =>
          property.builtInHook siblings plan.method plan.tag plan.phase plan.label := by
  unfold settle
  rw [present]
  cases kind : property.kind
  case numbered =>
    cases automatic : property.isAutomaticNumbering <;>
      rcases scope : numberingScope? siblings with _ | ⟨link, argument, parent⟩ <;>
      simp [hookPlans, plainSettings, kind, automatic, scope]
  case linkObject =>
    cases free : property.linkConstraints.isEmpty <;> simp [hookPlans, plainSettings, kind, free]
  all_goals simp [hookPlans, plainSettings, kind]

theorem has_eq_isSome_plannedHook? (property : Property) (siblings : Siblings) (plan : HookPlan) :
    siblings.has plan.tag = (property.plannedHook? siblings plan).isSome := by
  rw [Siblings.has_eq_isSome_first?, plannedHook?, Option.isSome_map]

theorem builtInHook_eq (property : Property) (siblings : Siblings) (plan : HookPlan) :
    property.builtInHook siblings plan.method plan.tag plan.phase plan.label =
      match property.plannedHook? siblings plan with
      | some hook => .ok hook
      | none =>
          .error (.missingPrecondition siblings.entity property.name (.sibling plan.tag)) := by
  unfold builtInHook Siblings.originName plannedHook?
  cases siblings.first? plan.tag <;> rfl

/-- The planned hooks are built exactly when each of them has an origin. -/
theorem mapM_builtInHook_eq_ok_iff {property : Property} {siblings : Siblings}
    {plans : List HookPlan} {hooks : List MethodHook} :
    (plans.mapM fun plan =>
        property.builtInHook siblings plan.method plan.tag plan.phase plan.label) = .ok hooks ↔
      (∀ plan ∈ plans, siblings.has plan.tag = true) ∧
        plans.filterMap (property.plannedHook? siblings) = hooks := by
  induction plans generalizing hooks with
  | nil => simp [pure, Except.pure]
  | cons plan rest ih =>
      rw [List.mapM_cons, builtInHook_eq, List.forall_mem_cons,
        property.has_eq_isSome_plannedHook? siblings plan]
      cases planned : property.plannedHook? siblings plan with
      | none => simp [bind, Except.bind]
      | some hook =>
          rw [List.filterMap_cons_some planned]
          cases others : rest.mapM fun plan =>
              property.builtInHook siblings plan.method plan.tag plan.phase plan.label with
          | error fault =>
              have refused : ¬ ∀ plan ∈ rest, siblings.has plan.tag = true := fun origins =>
                absurd (ih.mpr ⟨origins, rfl⟩) (by simp [others])
              simp [refused, bind, Except.bind]
          | ok built =>
              obtain ⟨origins, rfl⟩ := ih.mp others
              simpa [bind, Except.bind, pure, Except.pure] using fun _ => origins

theorem exists_of_mapM_builtInHook_eq_error {property : Property} {siblings : Siblings}
    {plans : List HookPlan} {fault : Fault}
    (failed : (plans.mapM fun plan =>
      property.builtInHook siblings plan.method plan.tag plan.phase plan.label) = .error fault) :
    ∃ required, fault = .missingPrecondition siblings.entity property.name (.sibling required) := by
  induction plans with
  | nil => contradiction
  | cons plan rest ih =>
      rw [List.mapM_cons, builtInHook_eq] at failed
      cases planned : property.plannedHook? siblings plan with
      | none =>
          rw [planned] at failed
          exact ⟨plan.tag, (Except.error.inj failed).symm⟩
      | some hook =>
          rw [planned] at failed
          cases others : rest.mapM fun plan =>
              property.builtInHook siblings plan.method plan.tag plan.phase plan.label with
          | error cause =>
              rw [others] at failed
              cases failed
              exact ih others
          | ok built =>
              rw [others] at failed
              contradiction

/-- Settling succeeds exactly when the preconditions are there and every planned hook has an
origin. The settings then depend on the plans and on the siblings alone. -/
theorem settle_eq_ok_iff {property : Property} {siblings : Siblings} {settings : ResolvedSettings} :
    property.settle siblings = .ok settings ↔
      (∀ tag ∈ property.tag.preconditions, siblings.has tag = true) ∧
        (∀ plan ∈ property.hookPlans, siblings.has plan.tag = true) ∧
        { property.plainSettings siblings with hooks := property.plannedHooks siblings } =
          settings := by
  cases missing : property.missingPrecondition? siblings with
  | some required =>
      have absent := List.find?_some missing
      have mem := List.mem_of_find?_eq_some missing
      constructor
      · intro succeeded
        rw [settle, missing] at succeeded
        contradiction
      · rintro ⟨present, -⟩
        rw [present required mem] at absent
        contradiction
  | none =>
      have present : ∀ tag ∈ property.tag.preconditions, siblings.has tag = true := by
        simpa [missingPrecondition?] using missing
      rw [settle_eq missing, and_iff_right present]
      constructor
      · intro succeeded
        cases built : property.hookPlans.mapM fun plan =>
            property.builtInHook siblings plan.method plan.tag plan.phase plan.label with
        | error fault =>
            rw [built] at succeeded
            contradiction
        | ok hooks =>
            obtain ⟨origins, rfl⟩ := mapM_builtInHook_eq_ok_iff.mp built
            rw [built] at succeeded
            exact ⟨origins, Except.ok.inj succeeded⟩
      · rintro ⟨origins, rfl⟩
        rw [mapM_builtInHook_eq_ok_iff.mpr ⟨origins, rfl⟩]
        rfl

/-- What is missing when settling fails is a sibling. -/
theorem exists_of_settle_eq_error {property : Property} {siblings : Siblings} {fault : Fault}
    (failed : property.settle siblings = .error fault) :
    ∃ required, fault = .missingPrecondition siblings.entity property.name (.sibling required) := by
  cases missing : property.missingPrecondition? siblings with
  | some required =>
      rw [settle, missing] at failed
      exact ⟨required, (Except.error.inj failed).symm⟩
  | none =>
      rw [settle_eq missing] at failed
      cases built : property.hookPlans.mapM fun plan =>
          property.builtInHook siblings plan.method plan.tag plan.phase plan.label with
      | ok hooks =>
          rw [built] at failed
          contradiction
      | error cause =>
          rw [built] at failed
          cases failed
          exact exists_of_mapM_builtInHook_eq_error built

/-! ## Hooks and their origins -/

/-- The methods that built-in hooks are put around, and why the sibling with the method has to be
there. -/
theorem mem_hookPlans {property : Property} {plan : HookPlan} (mem : plan ∈ property.hookPlans) :
    (plan.method = "insert" ∧ plan.tag = .storedObject ∧
      (.storedObject ∈ property.tag.preconditions ∨
        .uniqueIdentified ∈ property.tag.preconditions)) ∨
    (plan.method = "update" ∧ plan.tag = .uniqueIdentified ∧
      (.uniqueIdentified ∈ property.tag.preconditions ∨ property.tag = .lastUpdate)) ∨
    (plan.method = "reschedule" ∧ plan.tag = .timeSlot ∧
      .timeSlot ∈ property.tag.preconditions) ∨
    (plan.method = "changestate" ∧ plan.tag = .lifecycle ∧
      .lifecycle ∈ property.tag.preconditions) := by
  unfold hookPlans at mem
  cases kind : property.kind
  all_goals
    simp only [kind, List.mem_ite_nil_right, List.mem_ite_nil_left, List.mem_cons,
      List.not_mem_nil, or_false] at mem
  case iterated | lastUpdate =>
    rcases mem with rfl | rfl <;> simp [tag, kind, PropertyKind.tag, PropertyTag.preconditions]
  case numbered | linkObject =>
    obtain ⟨-, rfl⟩ := mem
    simp [tag, kind, PropertyKind.tag, PropertyTag.preconditions]
  all_goals
    subst mem
    simp [tag, kind, PropertyKind.tag, PropertyTag.preconditions]

/-- The kind that a built-in hook is planned for has the method. -/
theorem method?_isSome_of_mem_hookPlans {property : Property} {plan : HookPlan}
    (mem : plan ∈ property.hookPlans) {kind : PropertyKind} (tagged : kind.tag = plan.tag) :
    (kind.method? plan.method).isSome := by
  rcases mem_hookPlans mem with ⟨method, tag, -⟩ | ⟨method, tag, -⟩ | ⟨method, tag, -⟩ |
    ⟨method, tag, -⟩
  all_goals
    rw [tag] at tagged
    rw [method]
    cases kind <;> first | contradiction | rfl

/-- A planned hook is put around a method that its origin has. -/
theorem mem_plannedHooks {property : Property} {siblings : Siblings} {hook : MethodHook}
    (mem : hook ∈ property.plannedHooks siblings) :
    hook.declaring = property.name ∧ ∃ origin ∈ siblings.all, origin.name = hook.origin ∧
      (origin.kind.method? hook.method).isSome := by
  obtain ⟨plan, inPlans, built⟩ := List.mem_filterMap.mp mem
  obtain ⟨origin, found, rfl⟩ := Option.map_eq_some_iff.mp built
  have tagged : origin.tag = plan.tag := by simpa using List.find?_some found
  exact ⟨rfl, origin, List.mem_of_find?_eq_some found, rfl,
    method?_isSome_of_mem_hookPlans inPlans tagged⟩

end Property

end EntitySurface
