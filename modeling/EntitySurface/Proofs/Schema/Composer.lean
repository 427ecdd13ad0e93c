import EntitySurface.Schema.Composition

/-!
# Reasoning about composition steps

A step is a function from a schema to a value or a fault, with the schema that it leaves in either
case. This module says when a sequence of steps succeeds, when each elementary step succeeds and
what it then does, and which steps leave the schema as it was when they fail.
-/

namespace EntitySurface.Composer

variable {α β : Type} {step : Composer α} {next : α → Composer β} {before after : Schema}
  {key : EntityKey} {done : Unit}

/-! ## Sequences -/

theorem bind_of_ok {value : α} (succeeded : step before = .ok value after) :
    (step >>= next) before = next value after := by
  show EStateM.bind step next before = _
  unfold EStateM.bind
  rw [succeeded]

theorem bind_of_error {fault : Fault} (failed : step before = .error fault after) :
    (step >>= next) before = .error fault after := by
  show EStateM.bind step next before = _
  unfold EStateM.bind
  rw [failed]

/-- A sequence succeeds exactly when both of its parts do. -/
theorem bind_eq_ok_iff {value : β} :
    (step >>= next) before = .ok value after ↔
      ∃ result middle, step before = .ok result middle ∧
        next result middle = .ok value after := by
  cases first : step before with
  | ok result middle => simp [bind_of_ok first, and_assoc]
  | error fault middle => simp [bind_of_error first]

/-! ## Success of single steps -/

theorem pure_eq_ok_iff {value result : α} :
    (pure value : Composer α) before = .ok result after ↔ value = result ∧ before = after := by
  show EStateM.Result.ok value before = _ ↔ _
  simp

theorem throw_ne_ok {fault : Fault} {value : α} :
    (throw fault : Composer α) before ≠ .ok value after := by
  show EStateM.Result.error fault before ≠ _
  simp

theorem modify_eq_ok_iff {change : Schema → Schema} :
    (modify change : Composer Unit) before = .ok done after ↔ change before = after := by
  show EStateM.Result.ok () (change before) = _ ↔ _
  simp

theorem check_eq_ok_iff {fault? : Schema → Option Fault} :
    check fault? before = .ok done after ↔ fault? before = none ∧ before = after := by
  unfold check
  cases fault? before <;> simp

theorem ensureComposing_eq_ok_iff {name : CompositionStep} :
    ensureComposing name before = .ok done after ↔ before.phase = .composing ∧ before = after := by
  unfold ensureComposing
  rw [check_eq_ok_iff]
  cases phase : before.phase <;> simp [Schema.isFinalized, phase]

theorem check_of_fault {fault? : Schema → Option Fault} {fault : Fault}
    (found : fault? before = some fault) : check fault? before = .error fault before := by
  simp only [check, found]

theorem check_of_none {fault? : Schema → Option Fault} (sound : fault? before = none) :
    check fault? before = .ok () before := by
  simp only [check, sound]

theorem ensureComposing_of_composing (name : CompositionStep)
    (composing : before.phase = .composing) : ensureComposing name before = .ok () before :=
  check_of_none (by simp [Schema.isFinalized, composing])

theorem ensureComposing_of_finalized (name : CompositionStep) (frozen : before.phase = .finalized) :
    ensureComposing name before = .error (.schemaFrozen name) before :=
  check_of_fault (by simp [Schema.isFinalized, frozen])

theorem requireEntity_eq_ok_iff {entity : Entity} :
    requireEntity key before = .ok entity after ↔
      before.entity? key = some entity ∧ before = after := by
  unfold requireEntity
  cases before.entity? key <;> simp

theorem requireTarget_eq_ok_iff {pending : Pending} {entity : Entity} :
    requireTarget pending before = .ok entity after ↔
      before.entity? pending.target = some entity ∧ before = after := by
  unfold requireTarget
  cases before.entity? pending.target <;> simp

theorem requireIdentifier_eq_ok_iff {name : String} :
    requireIdentifier name before = .ok done after ↔
      Name.identifierProblem? name = none ∧ before = after := by
  simp [requireIdentifier, check_eq_ok_iff]

theorem requireNamespace_eq_ok_iff {space : String} :
    requireNamespace space before = .ok done after ↔
      Name.namespaceProblem? space = none ∧ before = after := by
  simp [requireNamespace, check_eq_ok_iff]

theorem requireCategory_eq_ok_iff {owner : String} {category : Option ChoiceKey} :
    requireCategory key owner category before = .ok done after ↔
      (∀ needed, category = some needed → (before.catalog.category? needed).isSome) ∧
        before = after := by
  unfold requireCategory
  rw [check_eq_ok_iff]
  cases category with
  | none => simp
  | some needed => cases found : before.catalog.category? needed <;> simp [found]

/-- Changing an entity puts the changed entity in its place. -/
theorem modifyEntity_eq_ok_iff {change : Entity → Except Fault Entity} :
    modifyEntity key change before = .ok done after ↔
      ∃ found changed, before.entity? key = some found ∧ change found = .ok changed ∧
        before.replace key changed = after := by
  unfold modifyEntity
  simp only [bind_eq_ok_iff, requireEntity_eq_ok_iff]
  constructor
  · rintro ⟨found, middle, ⟨known, rfl⟩, rest⟩
    cases result : change found with
    | error fault =>
        rw [result] at rest
        exact absurd rest throw_ne_ok
    | ok changed =>
        rw [result] at rest
        exact ⟨found, changed, known, result, modify_eq_ok_iff.mp rest⟩
  · rintro ⟨found, changed, known, result, replaced⟩
    refine ⟨found, before, ⟨known, rfl⟩, ?_⟩
    rw [result]
    exact modify_eq_ok_iff.mpr replaced

/-! ## Failure -/

/-- Whatever comes of the step, the schema stays as it was. -/
def Reads (step : Composer α) : Prop :=
  ∀ before, (∃ value, step before = .ok value before) ∨ ∃ fault, step before = .error fault before

/-- When the step fails on this schema, the schema stays as it was. -/
def AllOrNothing (step : Composer α) (before : Schema) : Prop :=
  ∀ fault after, step before = .error fault after → after = before

namespace Reads

/-- A step that only reads may be followed by any step that changes all or nothing. -/
theorem bind (reads : Reads step)
    (rest : ∀ value, step before = .ok value before → AllOrNothing (next value) before) :
    AllOrNothing (step >>= next) before := by
  intro fault after failed
  rcases reads before with ⟨value, succeeded⟩ | ⟨first, refused⟩
  · rw [bind_of_ok succeeded] at failed
    exact rest value succeeded fault after failed
  · rw [bind_of_error refused] at failed
    cases failed
    rfl

theorem allOrNothing (reads : Reads step) : AllOrNothing step before := by
  intro fault after failed
  rcases reads before with ⟨value, succeeded⟩ | ⟨first, refused⟩
  · rw [succeeded] at failed
    contradiction
  · rw [refused] at failed
    cases failed
    rfl

theorem pure (value : α) : Reads (pure value : Composer α) :=
  fun _ => Or.inl ⟨value, rfl⟩

theorem throw (fault : Fault) : Reads (throw fault : Composer α) :=
  fun _ => Or.inr ⟨fault, rfl⟩

theorem check (fault? : Schema → Option Fault) : Reads (check fault?) := by
  intro before
  unfold Composer.check
  cases fault? before <;> simp

theorem requireEntity (key : EntityKey) : Reads (requireEntity key) := by
  intro before
  unfold Composer.requireEntity
  cases before.entity? key <;> simp

theorem requireTarget (pending : Pending) : Reads (requireTarget pending) := by
  intro before
  unfold Composer.requireTarget
  cases before.entity? pending.target <;> simp

end Reads

/-- A step may be followed by one that cannot fail after it. -/
theorem AllOrNothing.bind (first : AllOrNothing step before)
    (rest : ∀ value middle, step before = .ok value middle →
      ∃ result after, next value middle = .ok result after) :
    AllOrNothing (step >>= next) before := by
  intro fault after failed
  cases outcome : step before with
  | ok value middle =>
      obtain ⟨result, last, succeeded⟩ := rest value middle outcome
      rw [bind_of_ok outcome, succeeded] at failed
      contradiction
  | error cause middle =>
      rw [bind_of_error outcome] at failed
      cases failed
      exact first fault after outcome

theorem allOrNothing_modify (change : Schema → Schema) :
    AllOrNothing (modify change : Composer Unit) before := by
  intro fault after failed
  change EStateM.Result.ok () (change before) = _ at failed
  contradiction

/-- A refused change of an entity changes nothing. -/
theorem allOrNothing_modifyEntity (key : EntityKey) (change : Entity → Except Fault Entity) :
    AllOrNothing (modifyEntity key change) before := by
  apply (Reads.requireEntity key).bind
  intro found _
  cases change found with
  | error fault => exact (Reads.throw fault).allOrNothing
  | ok changed => exact allOrNothing_modify _

/-! ## Steps that work on entities only -/

/-- Whatever comes of the step, it changes nothing but the entities. -/
def Confined (step : Composer α) : Prop :=
  ∀ before, ∃ entities, (∃ value, step before = .ok value { before with entities }) ∨
    ∃ fault, step before = .error fault { before with entities }

namespace Confined

theorem bind (first : Confined step) (rest : ∀ value, Confined (next value)) :
    Confined (step >>= next) := by
  intro before
  obtain ⟨entities, ⟨value, succeeded⟩ | ⟨fault, failed⟩⟩ := first before
  · rw [bind_of_ok succeeded]
    obtain ⟨others, outcome⟩ := rest value { before with entities }
    exact ⟨others, outcome⟩
  · rw [bind_of_error failed]
    exact ⟨entities, Or.inr ⟨fault, rfl⟩⟩

theorem of_reads (reads : Reads step) : Confined step :=
  fun before => ⟨before.entities, reads before⟩

theorem modifyEntity (key : EntityKey) (change : Entity → Except Fault Entity) :
    Confined (modifyEntity key change) := by
  apply (of_reads (Reads.requireEntity key)).bind
  intro found
  cases change found with
  | error fault => exact of_reads (Reads.throw fault)
  | ok changed =>
      intro before
      cases entered : before.index.position? key with
      | some position =>
          refine ⟨before.entities.set position changed, Or.inl ⟨(), ?_⟩⟩
          show EStateM.Result.ok () (before.replace key changed) = _
          simp only [Schema.replace, entered]
      | none =>
          refine ⟨before.entities, Or.inl ⟨(), ?_⟩⟩
          show EStateM.Result.ok () (before.replace key changed) = _
          simp only [Schema.replace, entered]

theorem forM {item : Type} {list : List item} {action : item → Composer Unit}
    (each : ∀ value, Confined (action value)) : Confined (list.forM action) := by
  induction list with
  | nil => exact of_reads (Reads.pure ())
  | cons first rest ih => exact (each first).bind fun _ => ih

end Confined

/-- A step that works on entities only may be undone as a whole. -/
theorem allOrNothing_restoring {step : Composer Unit} (confined : Confined step) :
    AllOrNothing (restoring step) before := by
  intro fault after failed
  unfold restoring at failed
  obtain ⟨entities, ⟨value, succeeded⟩ | ⟨cause, refused⟩⟩ := confined before
  · rw [succeeded] at failed
    contradiction
  · rw [refused] at failed
    cases failed
    rfl

end EntitySurface.Composer
