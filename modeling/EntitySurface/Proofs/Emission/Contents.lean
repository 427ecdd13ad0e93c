import EntitySurface.Proofs.Emission.Protocol

/-!
# What emitters hand over

An emitter collects what it is passed into the open entity, and keeps the entity when it ends. The
files of a generation are then given by what was derived, entity by entity: nothing of one entity
gets into another one, and no entity is lost.
-/

namespace EntitySurface

namespace Emitter

variable {ε : Type} [Emitter ε]

theorem takeAll_append {emitter next : ε} {first : List EmitterCall}
    (taken : takeAll emitter first = .ok next) (second : List EmitterCall) :
    takeAll emitter (first ++ second) = takeAll next second := by
  induction first generalizing emitter with
  | nil =>
      cases taken
      rfl
  | cons call rest ih =>
      rw [takeAll] at taken
      rw [List.cons_append, takeAll]
      cases step : take emitter call with
      | error fault => simp [step] at taken
      | ok changed =>
          simp only [step] at taken ⊢
          exact ih taken

/-- Calls within an entity change the open entity, one after the other. -/
theorem takeAll_within {β : Type} {opened : β → ε} {change : β → EmitterCall → β}
    (takes : ∀ item call, call.needsOpen = true → call.leavesOpen = true →
      take (opened item) call = .ok (opened (change item call)))
    {calls : List EmitterCall}
    (within : ∀ call ∈ calls, call.needsOpen = true ∧ call.leavesOpen = true) (item : β) :
    takeAll (opened item) calls = .ok (opened (calls.foldl change item)) := by
  induction calls generalizing item with
  | nil => rfl
  | cons call rest ih =>
      obtain ⟨⟨needs, leaves⟩, others⟩ := List.forall_mem_cons.mp within
      rw [takeAll, takes item call needs leaves]
      exact ih others (change item call)

end Emitter

/-! ## The manifest -/

/-- The open entry after a call. -/
def ManifestEntity.after (entry : ManifestEntity) : EmitterCall → ManifestEntity
  | .operation operation => { entry with operations := entry.operations ++ [operation] }
  | .page page => { entry with pages := entry.pages ++ [page] }
  | .block block => ManifestEmitter.addBlock entry block
  | .beginEntity _ | .endEntity => entry

/-- The entry of a derived entity. -/
def DerivedEntity.manifestEntry (derived : DerivedEntity) : ManifestEntity where
  entity := derived.entity.key
  label := derived.entity.label
  operations := derived.surface.operations
  pages := derived.surface.pages
  groups := derived.surface.groups.members
  wovenMethods := derived.chains.map HookChain.woven
  search := derived.surface.searchPlan

namespace ManifestEntity

theorem foldl_after_operations (entry : ManifestEntity) (operations : List Operation) :
    (operations.map EmitterCall.operation).foldl after entry =
      { entry with operations := entry.operations ++ operations } := by
  induction operations generalizing entry with
  | nil => simp
  | cons operation rest ih => simp [ih, after]

theorem foldl_after_pages (entry : ManifestEntity) (pages : List Page) :
    (pages.map EmitterCall.page).foldl after entry =
      { entry with pages := entry.pages ++ pages } := by
  induction pages generalizing entry with
  | nil => simp
  | cons page rest ih => simp [ih, after]

theorem foldl_after_chains (entry : ManifestEntity) (chains : List HookChain) :
    (chains.map fun chain => EmitterCall.block (.hookChain chain)).foldl after entry =
      { entry with wovenMethods := entry.wovenMethods ++ chains.map HookChain.woven } := by
  induction chains generalizing entry with
  | nil => simp
  | cons chain rest ih => simp [ih, after, ManifestEmitter.addBlock]

end ManifestEntity

theorem DerivedEntity.foldl_after_contents (derived : DerivedEntity) :
    derived.contents.foldl ManifestEntity.after
        { entity := derived.entity.key, label := derived.entity.label, operations := []
          pages := [], groups := .empty, wovenMethods := [], search := none } =
      derived.manifestEntry := by
  simp only [contents, List.foldl_append, List.foldl_cons, ManifestEntity.foldl_after_operations,
    ManifestEntity.foldl_after_pages, ManifestEntity.foldl_after_chains]
  cases plan : derived.surface.searchPlan <;>
    simp [manifestEntry, ManifestEntity.after, ManifestEmitter.addBlock, plan]

namespace ManifestEmitter

/-- The calls for an entity add its entry to the manifest. -/
theorem takeAll_calls (emitter : ManifestEmitter) (derived : DerivedEntity)
    (closed : emitter.current = none) :
    Emitter.takeAll emitter derived.calls =
      .ok { emitter with entities := emitter.entities ++ [derived.manifestEntry] } := by
  obtain ⟨schema, _, entities⟩ := emitter
  obtain rfl := closed
  let opened (entry : ManifestEntity) : ManifestEmitter :=
    { schema, current := some entry, entities }
  have takes : ∀ entry call, call.needsOpen = true → call.leavesOpen = true →
      Emitter.take (opened entry) call = .ok (opened (entry.after call)) := by
    intro entry call needs leaves
    cases call <;> first | contradiction | rfl
  have collected := Emitter.takeAll_within takes derived.within_contents
    { entity := derived.entity.key, label := derived.entity.label, operations := [], pages := []
      groups := .empty, wovenMethods := [], search := none }
  rw [derived.foldl_after_contents] at collected
  rw [derived.calls_eq, Emitter.takeAll]
  exact Emitter.takeAll_append collected [.endEntity]

theorem takeAll_flatMap_calls (emitter : ManifestEmitter) (derived : List DerivedEntity)
    (closed : emitter.current = none) :
    Emitter.takeAll emitter (derived.flatMap DerivedEntity.calls) =
      .ok { emitter with
        entities := emitter.entities ++ derived.map DerivedEntity.manifestEntry } := by
  induction derived generalizing emitter with
  | nil => simp [Emitter.takeAll]
  | cons first rest ih =>
      rw [List.flatMap_cons, Emitter.takeAll_append (emitter.takeAll_calls first closed), ih]
      · simp
      · exact closed

/-- The manifest has one entry for each derived entity. -/
theorem run_eq (schema : String) (derived : List DerivedEntity) :
    Emitter.run ({ schema } : ManifestEmitter) (derived.flatMap DerivedEntity.calls) =
      .ok [{ path := "manifest.json"
             content := ({ schema, generator, version
                           entities := derived.map DerivedEntity.manifestEntry } : Manifest).text
             kind := .json }] := by
  rw [Emitter.run, takeAll_flatMap_calls _ derived rfl]
  rfl

end ManifestEmitter

/-! ## Stubs -/

/-- The open module after a call. -/
def Stub.Module.after (docs : Bool) (module' : Module) : EmitterCall → Module
  | .operation operation =>
      { module' with operations := module'.operations ++ operationText docs operation }
  | .page page => { module' with blocks := module'.blocks ++ pageText page }
  | .block block => { module' with blocks := module'.blocks ++ "\n" ++ blockText docs block }
  | .beginEntity _ | .endEntity => module'

/-- Calls change what is written to a module, but not where and for which entity. -/
theorem Stub.Module.foldl_after_eq (docs : Bool) (module' : Module) (calls : List EmitterCall) :
    (calls.foldl (after docs) module').path = module'.path ∧
      (calls.foldl (after docs) module').entity = module'.entity := by
  induction calls generalizing module' with
  | nil => exact ⟨rfl, rfl⟩
  | cons call rest ih =>
      rw [List.foldl_cons, (ih _).1, (ih _).2]
      cases call <;> exact ⟨rfl, rfl⟩

/-- The module of a derived entity. -/
def DerivedEntity.stubModule (docs : Bool) (derived : DerivedEntity) : Stub.Module :=
  derived.contents.foldl (Stub.Module.after docs)
    { path := derived.entity.modulePath, entity := derived.entity.key }

@[simp]
theorem DerivedEntity.stubModule_path (docs : Bool) (derived : DerivedEntity) :
    (derived.stubModule docs).path = derived.entity.modulePath :=
  (Stub.Module.foldl_after_eq docs _ derived.contents).1

@[simp]
theorem DerivedEntity.stubModule_entity (docs : Bool) (derived : DerivedEntity) :
    (derived.stubModule docs).entity = derived.entity.key :=
  (Stub.Module.foldl_after_eq docs _ derived.contents).2

namespace StubEmitter

/-- The directories with one more module. -/
def declare (modules : Dictionary (List String)) (entity : Entity) : Dictionary (List String) :=
  modules.insert entity.moduleDirectory
    ((modules.find? entity.moduleDirectory).getD [] ++ [entity.moduleName])

/-- The calls for an entity add its file, and its module to the directory that it stands in. -/
theorem takeAll_calls (emitter : StubEmitter) (derived : DerivedEntity)
    (closed : emitter.current = none) :
    Emitter.takeAll emitter derived.calls =
      .ok { emitter with
        files := emitter.files ++ [(derived.stubModule emitter.docs).file]
        modules := declare emitter.modules derived.entity } := by
  obtain ⟨docs, _, files, modules⟩ := emitter
  obtain rfl := closed
  let opened (module' : Stub.Module) : StubEmitter :=
    { docs, current := some module', files, modules := declare modules derived.entity }
  have takes : ∀ module' call, call.needsOpen = true → call.leavesOpen = true →
      Emitter.take (opened module') call = .ok (opened (module'.after docs call)) := by
    intro module' call needs leaves
    cases call <;> first | contradiction | rfl
  have collected := Emitter.takeAll_within takes derived.within_contents
    { path := derived.entity.modulePath, entity := derived.entity.key }
  rw [derived.calls_eq, Emitter.takeAll]
  exact Emitter.takeAll_append collected [.endEntity]

theorem takeAll_flatMap_calls (emitter : StubEmitter) (derived : List DerivedEntity)
    (closed : emitter.current = none) :
    Emitter.takeAll emitter (derived.flatMap DerivedEntity.calls) =
      .ok { emitter with
        files := emitter.files ++ derived.map fun item => (item.stubModule emitter.docs).file
        modules := (derived.map DerivedEntity.entity).foldl declare emitter.modules } := by
  induction derived generalizing emitter with
  | nil => simp [Emitter.takeAll]
  | cons first rest ih =>
      rw [List.flatMap_cons, Emitter.takeAll_append (emitter.takeAll_calls first closed), ih]
      · simp
      · exact closed

/-- There is one file for each derived entity and one for each directory that entities stand in. -/
theorem run_eq (docs : Bool) (derived : List DerivedEntity) :
    Emitter.run ({ docs } : StubEmitter) (derived.flatMap DerivedEntity.calls) =
      .ok ((derived.map fun item => (item.stubModule docs).file) ++
        ((derived.map DerivedEntity.entity).foldl declare .empty).entries.map
          fun (directory, modules) => Stub.directoryFile directory modules) := by
  rw [Emitter.run, takeAll_flatMap_calls _ derived rfl]
  rfl

end StubEmitter

end EntitySurface
