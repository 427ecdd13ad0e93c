import EntitySurface.Proofs.Emission.Contents
import EntitySurface.Proofs.Surface.Derived
import Mathlib.Data.List.Forall2

/-!
# The files of a project

A generation derives every entity of the schema and passes what it derived to each emitter that is
asked for. So the files of the project are those of the emitters, and an index where one is wanted.
-/

namespace EntitySurface

/-- What was derived for an entity: its surface, and the chains that have hooks. -/
structure DerivedEntity.Derives (derived : DerivedEntity) (rules : List DerivationRule)
    (entity : Entity) : Prop where
  source : derived.entity = entity
  surfaced : Surface.derive rules entity = .ok derived.surface
  woven : ∃ chains, entity.hookChains = .ok chains ∧
    derived.chains = chains.filter fun chain => !chain.isEmpty

/-- The stub modules of derived entities, and the files that declare them. -/
def StubEmitter.filesOf (docs : Bool) (derived : List DerivedEntity) : List GeneratedFile :=
  (derived.map fun item => (item.stubModule docs).file) ++
    ((derived.map DerivedEntity.entity).foldl declare .empty).entries.map
      fun (directory, modules) => Stub.directoryFile directory modules

/-- Stub emitters write source files only. -/
theorem StubEmitter.kind_of_mem_filesOf {docs : Bool} {derived : List DerivedEntity}
    {file : GeneratedFile} (mem : file ∈ filesOf docs derived) : file.kind = .rust := by
  simp only [filesOf, List.mem_append, List.mem_map] at mem
  obtain ⟨item, -, rfl⟩ | ⟨directory, -, rfl⟩ := mem <;> rfl

namespace Schema

variable {schema : Schema} {settings : GenerationSettings} {rules : List DerivationRule}
  {project : Project} {derived : List DerivedEntity}

/-- The manifest of derived entities. -/
def manifestOf (schema : Schema) (derived : List DerivedEntity) : Manifest :=
  { schema := schema.name, generator := ManifestEmitter.generator
    version := ManifestEmitter.version
    entities := derived.map DerivedEntity.manifestEntry }

/-- Every entity is derived, in order. -/
theorem forall₂_of_deriveEach {entities : List Entity}
    (succeeded : deriveEach rules entities = .ok derived) :
    List.Forall₂ (fun entity item => item.Derives rules entity) entities derived := by
  induction entities generalizing derived with
  | nil =>
      cases succeeded
      exact .nil
  | cons entity rest ih =>
      rw [deriveEach] at succeeded
      cases surfaced : Surface.derive rules entity with
      | error fault => simp [surfaced, bind, Except.bind] at succeeded
      | ok surface =>
          cases chained : entity.hookChains with
          | error fault => simp [surfaced, chained, bind, Except.bind] at succeeded
          | ok chains =>
              cases others : deriveEach rules rest with
              | error fault => simp [surfaced, chained, others, bind, Except.bind] at succeeded
              | ok last =>
                  simp only [surfaced, chained, others, bind, Except.bind, pure, Except.pure,
                    Except.ok.injEq] at succeeded
                  rw [← succeeded]
                  exact .cons ⟨rfl, surfaced, chains, chained, rfl⟩ (ih others)

theorem deriveEach_of_deriveAll {warnings : List String}
    (succeeded : schema.deriveAll rules = .ok (warnings, derived)) :
    deriveEach rules schema.entities = .ok derived := by
  unfold deriveAll at succeeded
  dsimp only at succeeded
  split at succeeded
  · contradiction
  · split at succeeded
    · contradiction
    · cases outcome : deriveEach rules schema.entities with
      | error fault => simp [outcome, bind, Except.bind] at succeeded
      | ok found =>
          simp only [outcome, bind, Except.bind, pure, Except.pure, Except.ok.injEq,
            Prod.mk.injEq] at succeeded
          rw [succeeded.2]

/-- The files that the emitters make of derived entities. -/
theorem emit_eq (schema : Schema) (settings : GenerationSettings) (derived : List DerivedEntity) :
    schema.emit settings (derived.flatMap DerivedEntity.calls) = .ok (
      (if settings.emitStubs then StubEmitter.filesOf settings.generateDocs derived else []) ++
        if settings.emitManifest then
          [{ path := "manifest.json", content := (schema.manifestOf derived).text, kind := .json }]
        else []) := by
  unfold emit
  rw [StubEmitter.run_eq, ManifestEmitter.run_eq]
  cases settings.emitStubs <;> cases settings.emitManifest <;> rfl

/-- Emitters write files for whatever was derived. -/
theorem exists_generate_of_deriveAll (settings : GenerationSettings)
    (derives : (schema.deriveAll rules).toOption.isSome = true) :
    ∃ project, schema.generate settings rules = .ok project := by
  obtain ⟨⟨warnings, derived⟩, outcome⟩ := exists_eq_ok_of_isSome derives
  unfold generate
  rw [outcome]
  simp only [emit_eq, bind, Except.bind, pure, Except.pure]
  exact ⟨_, rfl⟩

/-- A project is put together from what was derived and what the emitters made of it. -/
theorem exists_assemble_of_generate (generated : schema.generate settings rules = .ok project) :
    ∃ warnings derived files, schema.deriveAll rules = .ok (warnings, derived) ∧
      schema.emit settings (derived.flatMap DerivedEntity.calls) = .ok files ∧
      project = .assemble schema settings.generateDocs warnings derived files := by
  unfold generate at generated
  cases outcome : schema.deriveAll rules with
  | error fault => simp [outcome, bind, Except.bind] at generated
  | ok found =>
      obtain ⟨warnings, derived⟩ := found
      cases emitted : schema.emit settings (derived.flatMap DerivedEntity.calls) with
      | error fault => simp [outcome, emitted, bind, Except.bind] at generated
      | ok files =>
          simp only [outcome, emitted, bind, Except.bind, pure, Except.pure,
            Except.ok.injEq] at generated
          exact ⟨warnings, derived, files, rfl, emitted, generated.symm⟩

/-- The files of a project are given by what was derived. -/
theorem exists_derived_of_generate (generated : schema.generate settings rules = .ok project) :
    ∃ derived, List.Forall₂ (fun entity item => item.Derives rules entity)
        schema.entities derived ∧
      project.files =
        (if settings.emitStubs then StubEmitter.filesOf settings.generateDocs derived else []) ++
        (if settings.emitManifest then
          [{ path := "manifest.json", content := (schema.manifestOf derived).text, kind := .json }]
        else []) ++
        if settings.generateDocs then
          [Project.operationsIndex schema.name (derived.map DerivedEntity.surface)] else [] := by
  obtain ⟨warnings, derived, files, outcome, emitted, rfl⟩ := exists_assemble_of_generate generated
  rw [emit_eq, Except.ok.injEq] at emitted
  rw [← emitted]
  exact ⟨derived, forall₂_of_deriveEach (deriveEach_of_deriveAll outcome), rfl⟩

/-- Only finalized schemas are generated. -/
theorem phase_of_generate (generated : schema.generate settings rules = .ok project) :
    schema.phase = .finalized := by
  obtain ⟨warnings, derived, files, outcome, -⟩ := exists_assemble_of_generate generated
  unfold deriveAll at outcome
  split at outcome
  · contradiction
  · next finalized => simpa [isFinalized] using finalized

/-- The surfaces of a project are those of the entities, in order. -/
theorem forall₂_surfaces_of_generate (generated : schema.generate settings rules = .ok project) :
    List.Forall₂ (fun entity surface => Surface.derive rules entity = .ok surface)
      schema.entities project.surfaces := by
  obtain ⟨warnings, derived, files, outcome, -, rfl⟩ := exists_assemble_of_generate generated
  exact List.forall₂_map_right_iff.mpr ((forall₂_of_deriveEach
    (deriveEach_of_deriveAll outcome)).imp fun _ _ derives => derives.surfaced)

end Schema

end EntitySurface
