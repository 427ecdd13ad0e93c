import EntitySurface.Generation

/-!
# The order of the calls to an emitter

Entities are passed to an emitter one at a time: a call that opens an entity may only come when none
is open, and every other call only when one is. The emitters of stubs and of manifests take every
sequence of calls in this order, and the calls that a generation makes are in this order. So no
generation ends in a fault of an emitter.
-/

namespace EntitySurface

namespace EmitterCall

/-- The call comes while an entity is open. -/
def needsOpen : EmitterCall → Bool
  | beginEntity _ => false
  | operation _ | page _ | block _ | endEntity => true

/-- An entity is open after the call. -/
def leavesOpen : EmitterCall → Bool
  | beginEntity _ | operation _ | page _ | block _ => true
  | endEntity => false

/-- Whether an entity is open after calls of which each may follow the one before. -/
def openAfter? (isOpen : Bool) : List EmitterCall → Option Bool
  | [] => some isOpen
  | call :: rest =>
      if call.needsOpen = isOpen then openAfter? call.leavesOpen rest else none

theorem openAfter?_append (isOpen : Bool) (first second : List EmitterCall) :
    openAfter? isOpen (first ++ second) =
      (openAfter? isOpen first).bind fun between => openAfter? between second := by
  induction first generalizing isOpen with
  | nil => rfl
  | cons call rest ih =>
      rw [List.cons_append, openAfter?, openAfter?]
      split
      · exact ih call.leavesOpen
      · rfl

/-- Calls within an entity leave it open. -/
theorem openAfter?_of_within {calls : List EmitterCall}
    (within : ∀ call ∈ calls, call.needsOpen = true ∧ call.leavesOpen = true) :
    openAfter? true calls = some true := by
  induction calls with
  | nil => rfl
  | cons call rest ih =>
      obtain ⟨⟨needs, leaves⟩, others⟩ := List.forall_mem_cons.mp within
      rw [openAfter?, if_pos needs, leaves]
      exact ih others

end EmitterCall

open EmitterCall

/-! ## The calls of a generation -/

namespace DerivedEntity

/-- What is passed to an emitter while the entity is open. -/
def contents (derived : DerivedEntity) : List EmitterCall :=
  derived.surface.operations.map EmitterCall.operation
    ++ derived.surface.pages.map EmitterCall.page
    ++ .block (.actionGroups derived.surface.groups)
    :: derived.chains.map (fun chain => .block (.hookChain chain))
    ++ derived.surface.searchPlan.toList.map (fun plan => .block (.search plan))

theorem calls_eq (derived : DerivedEntity) :
    derived.calls = .beginEntity derived.entity :: (derived.contents ++ [.endEntity]) := by
  simp [calls, contents]

theorem within_contents (derived : DerivedEntity) :
    ∀ call ∈ derived.contents, call.needsOpen = true ∧ call.leavesOpen = true := by
  simp only [contents, List.mem_append, List.mem_cons, List.mem_map]
  rintro call (((⟨_, -, rfl⟩ | ⟨_, -, rfl⟩) | (rfl | ⟨_, -, rfl⟩)) | ⟨_, -, rfl⟩) <;>
    exact ⟨rfl, rfl⟩

/-- The calls for one entity open it first and end it last. -/
theorem openAfter?_calls (derived : DerivedEntity) :
    openAfter? false derived.calls = some false := by
  calc
    openAfter? false derived.calls
    _ = openAfter? true (derived.contents ++ [.endEntity]) := by rw [derived.calls_eq]; rfl
    _ = openAfter? true [.endEntity] := by
      rw [openAfter?_append, openAfter?_of_within derived.within_contents, Option.bind_some]
    _ = some false := rfl

end DerivedEntity

theorem openAfter?_flatMap_calls (derived : List DerivedEntity) :
    openAfter? false (derived.flatMap DerivedEntity.calls) = some false := by
  induction derived with
  | nil => rfl
  | cons first rest ih =>
      rw [List.flatMap_cons, openAfter?_append, first.openAfter?_calls]
      exact ih

/-! ## Emitters that follow the order -/

/-- The emitter takes every call that may come next, keeps track of whether an entity is open, and
hands over its files whenever none is. -/
structure Emitter.Orderly {ε : Type} [Emitter ε] (isOpen : ε → Bool) : Prop where
  take : ∀ emitter call, call.needsOpen = isOpen emitter →
    ∃ next, Emitter.take emitter call = .ok next ∧ isOpen next = call.leavesOpen
  finish : ∀ emitter, isOpen emitter = false → ∃ handed, Emitter.finish emitter = .ok handed

namespace Emitter.Orderly

variable {ε : Type} [Emitter ε] {isOpen : ε → Bool} (orderly : Orderly isOpen)
include orderly

theorem takeAll {emitter : ε} {calls : List EmitterCall} {final : Bool}
    (ordered : openAfter? (isOpen emitter) calls = some final) :
    ∃ last, Emitter.takeAll emitter calls = .ok last ∧ isOpen last = final := by
  induction calls generalizing emitter with
  | nil => exact ⟨emitter, rfl, Option.some.inj ordered⟩
  | cons call rest ih =>
      rw [openAfter?] at ordered
      split at ordered
      · next may =>
        obtain ⟨next, taken, state⟩ := orderly.take emitter call may
        rw [Emitter.takeAll, taken]
        exact ih (state ▸ ordered)
      · contradiction

/-- A sequence of calls that ends the entities that it opens is turned into files. -/
theorem run {emitter : ε} {calls : List EmitterCall}
    (ordered : openAfter? (isOpen emitter) calls = some false) :
    ∃ files, Emitter.run emitter calls = .ok files := by
  obtain ⟨last, taken, closed⟩ := orderly.takeAll ordered
  obtain ⟨handed, finished⟩ := orderly.finish last closed
  exact ⟨handed.1, by simp only [Emitter.run, taken, finished, Except.map]⟩

end Emitter.Orderly

/-- The emitter of stubs keeps the module of the open entity. -/
theorem StubEmitter.orderly :
    Emitter.Orderly fun emitter : StubEmitter => emitter.current.isSome where
  take := by
    rintro ⟨docs, _ | module', files, modules⟩ call may <;> cases call
    all_goals first | contradiction | exact ⟨_, rfl, rfl⟩
  finish := by
    rintro ⟨docs, _ | module', files, modules⟩ closed
    · exact ⟨_, rfl⟩
    · contradiction

/-- The emitter of manifests keeps the entry of the open entity. -/
theorem ManifestEmitter.orderly :
    Emitter.Orderly fun emitter : ManifestEmitter => emitter.current.isSome where
  take := by
    rintro ⟨schema, _ | entry, entities⟩ call may <;> cases call
    all_goals first | contradiction | exact ⟨_, rfl, rfl⟩
  finish := by
    rintro ⟨schema, _ | entry, entities⟩ closed
    · exact ⟨_, rfl⟩
    · contradiction

/-- Whatever was derived, the emitters turn it into files. -/
theorem Schema.exists_emit_eq_ok (schema : Schema) (settings : GenerationSettings)
    (derived : List DerivedEntity) :
    ∃ files, schema.emit settings (derived.flatMap DerivedEntity.calls) = .ok files := by
  have ordered := openAfter?_flatMap_calls derived
  obtain ⟨stubs, stubsWritten⟩ : ∃ files, Emitter.run
      ({ docs := settings.generateDocs } : StubEmitter) (derived.flatMap DerivedEntity.calls) =
        .ok files := StubEmitter.orderly.run ordered
  obtain ⟨manifest, manifestWritten⟩ : ∃ files, Emitter.run
      ({ schema := schema.name } : ManifestEmitter) (derived.flatMap DerivedEntity.calls) =
        .ok files := ManifestEmitter.orderly.run ordered
  unfold Schema.emit
  rw [stubsWritten, manifestWritten]
  cases settings.emitStubs <;> cases settings.emitManifest <;> exact ⟨_, rfl⟩

end EntitySurface
