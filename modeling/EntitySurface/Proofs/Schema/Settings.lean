import EntitySurface.Proofs.Schema.Files

/-!
# What settings decide

The settings of a generation choose which files are written, and whether stubs are documented. They
have no part in whether the generation succeeds and in what is derived.

The emitters may work side by side: each entity is passed to all of them before the next one is
derived. The first fault then ends the generation for all emitters. Since no emitter ever refuses
what it is passed, this comes to the same as deriving all entities first.
-/

namespace EntitySurface

/-- The emitters of one generation, as far as they are asked for. -/
structure EmitterGroup where
  stubs : Option StubEmitter
  manifest : Option ManifestEmitter

namespace EmitterGroup

/-- The emitters that the settings ask for. -/
def ofSettings (schema : Schema) (settings : GenerationSettings) : EmitterGroup where
  stubs := if settings.emitStubs then some { docs := settings.generateDocs } else none
  manifest := if settings.emitManifest then some { schema := schema.name } else none

/-- Pass calls to one emitter after the other. -/
def takeAll (group : EmitterGroup) (calls : List EmitterCall) : Except Fault EmitterGroup := do
  let stubs ← group.stubs.mapM fun emitter => Emitter.takeAll emitter calls
  let manifest ← group.manifest.mapM fun emitter => Emitter.takeAll emitter calls
  pure { stubs, manifest }

/-- The files of one emitter after the other. -/
def finish (group : EmitterGroup) : Except Fault (List GeneratedFile) := do
  let stubs ← group.stubs.mapM Emitter.finish
  let manifest ← group.manifest.mapM Emitter.finish
  pure ((stubs.map Prod.fst).getD [] ++ (manifest.map Prod.fst).getD [])

/-- Derive entities in order, passing each to all emitters before the next is derived. -/
def deriveEach (rules : List DerivationRule) (group : EmitterGroup) :
    List Entity → Except Fault (List DerivedEntity × EmitterGroup)
  | [] => .ok ([], group)
  | entity :: rest => do
      let surface ← Surface.derive rules entity
      let chains ← entity.hookChains
      let derived := { entity, surface, chains := chains.filter fun chain => !chain.isEmpty }
      let changed ← group.takeAll derived.calls
      let (others, final) ← changed.deriveEach rules rest
      pure (derived :: others, final)

/-- No emitter is inside an entity. -/
structure Closed (group : EmitterGroup) : Prop where
  stubs : ∀ emitter ∈ group.stubs, emitter.current = none
  manifest : ∀ emitter ∈ group.manifest, emitter.current = none

/-- The emitters after derived entities. -/
def after (group : EmitterGroup) (derived : List DerivedEntity) : EmitterGroup where
  stubs := group.stubs.map fun emitter =>
    { emitter with
      files := emitter.files ++ derived.map fun item => (item.stubModule emitter.docs).file
      modules := (derived.map DerivedEntity.entity).foldl StubEmitter.declare emitter.modules }
  manifest := group.manifest.map fun emitter =>
    { emitter with entities := emitter.entities ++ derived.map DerivedEntity.manifestEntry }

variable {group : EmitterGroup}

theorem Closed.after (closed : group.Closed) (derived : List DerivedEntity) :
    (group.after derived).Closed where
  stubs := by
    intro emitter mem
    obtain ⟨before, found, rfl⟩ := Option.map_eq_some_iff.mp mem
    exact closed.stubs before found
  manifest := by
    intro emitter mem
    obtain ⟨before, found, rfl⟩ := Option.map_eq_some_iff.mp mem
    exact closed.manifest before found

theorem after_nil (group : EmitterGroup) : group.after [] = group := by
  simp [after]

theorem after_after (group : EmitterGroup) (first second : List DerivedEntity) :
    (group.after first).after second = group.after (first ++ second) := by
  simp [after, Function.comp_def]

/-- Emitters that are inside no entity take whatever was derived. -/
theorem Closed.takeAll (closed : group.Closed) (derived : List DerivedEntity) :
    group.takeAll (derived.flatMap DerivedEntity.calls) = .ok (group.after derived) := by
  obtain ⟨stubs, manifest⟩ := group
  have stubsTake : stubs.mapM (fun emitter =>
      Emitter.takeAll emitter (derived.flatMap DerivedEntity.calls)) =
        .ok (EmitterGroup.after ⟨stubs, manifest⟩ derived).stubs := by
    cases stubs with
    | none => rfl
    | some emitter =>
        have taken := emitter.takeAll_flatMap_calls derived (closed.stubs emitter rfl)
        simp [Option.mapM_some, taken, EmitterGroup.after]
  have manifestTakes : manifest.mapM (fun emitter =>
      Emitter.takeAll emitter (derived.flatMap DerivedEntity.calls)) =
        .ok (EmitterGroup.after ⟨stubs, manifest⟩ derived).manifest := by
    cases manifest with
    | none => rfl
    | some emitter =>
        have taken := emitter.takeAll_flatMap_calls derived (closed.manifest emitter rfl)
        simp [Option.mapM_some, taken, EmitterGroup.after]
  simp only [EmitterGroup.takeAll, stubsTake, manifestTakes, bind, Except.bind, pure, Except.pure]

/-- Whether the emitters work side by side or after the derivation, the entities are derived up to
the same fault, and the emitters end up the same. -/
theorem Closed.deriveEach_eq (closed : group.Closed) (rules : List DerivationRule)
    (entities : List Entity) :
    group.deriveEach rules entities =
      (Schema.deriveEach rules entities).map fun derived => (derived, group.after derived) := by
  induction entities generalizing group with
  | nil => rw [deriveEach, Schema.deriveEach, Except.map, after_nil]
  | cons entity rest ih =>
      rw [deriveEach, Schema.deriveEach]
      cases Surface.derive rules entity with
      | error fault => rfl
      | ok surface =>
          cases entity.hookChains with
          | error fault => rfl
          | ok chains =>
              have taken := closed.takeAll
                [{ entity, surface, chains := chains.filter fun chain => !chain.isEmpty }]
              rw [List.flatMap_singleton] at taken
              simp only [bind, Except.bind, taken, ih (closed.after _)]
              cases Schema.deriveEach rules rest with
              | error fault => rfl
              | ok others => simp [Except.map, pure, Except.pure, after_after]

theorem closed_ofSettings (schema : Schema) (settings : GenerationSettings) :
    (ofSettings schema settings).Closed := by
  constructor <;>
  · intro emitter mem
    simp only [ofSettings, Option.mem_def] at mem
    split at mem
    · cases mem
      rfl
    · contradiction

/-- The files of the group are those that the emitters hand over one by one. -/
theorem finish_after_ofSettings (schema : Schema) (settings : GenerationSettings)
    (derived : List DerivedEntity) :
    ((ofSettings schema settings).after derived).finish =
      schema.emit settings (derived.flatMap DerivedEntity.calls) := by
  rw [Schema.emit_eq]
  unfold ofSettings
  cases settings.emitStubs <;> cases settings.emitManifest <;> rfl

end EmitterGroup

namespace Schema

/-- Generate a project with emitters that work side by side. -/
def generateSideBySide (schema : Schema) (settings : GenerationSettings)
    (rules : List DerivationRule) : Except Fault Project :=
  if !schema.isFinalized then .error (.schemaNotFinalized schema.name)
  else
    let report := schema.validate ValidationRule.standard
    match report.toFault? with
    | some fault => .error fault
    | none => do
        let (derived, group) ←
          (EmitterGroup.ofSettings schema settings).deriveEach rules schema.entities
        let files ← group.finish
        pure (.assemble schema settings.generateDocs (report.warnings.map WarningFinding.text)
          derived files)

theorem generateSideBySide_eq (schema : Schema) (settings : GenerationSettings)
    (rules : List DerivationRule) :
    schema.generateSideBySide settings rules = schema.generate settings rules := by
  have sideBySide := (EmitterGroup.closed_ofSettings schema settings).deriveEach_eq rules
    schema.entities
  unfold generateSideBySide generate deriveAll
  rw [sideBySide]
  cases schema.isFinalized with
  | false => rfl
  | true =>
      simp only [Bool.not_true, Bool.false_eq_true, if_false]
      cases (schema.validate ValidationRule.standard).toFault? with
      | some fault => rfl
      | none =>
          cases deriveEach rules schema.entities with
          | error fault => rfl
          | ok derived =>
              simp only [Except.map, bind, Except.bind, pure, Except.pure,
                EmitterGroup.finish_after_ofSettings]

/-- What is generated depends on the settings only in which files there are and in whether stubs are
documented: either every generation fails with one fault, or all succeed with the same name,
warnings and surfaces, and the files are the stubs, the manifest and the index, as far as they are
asked for, each the same in every project. That holds whether emitters work side by side or one
after the other. -/
theorem generate_selects_files (schema : Schema) (rules : List DerivationRule) :
    (∀ settings, schema.generateSideBySide settings rules = schema.generate settings rules) ∧
    ((∃ fault, ∀ settings, schema.generate settings rules = .error fault) ∨
      ∃ (surfaces : List Surface) (warnings : List String)
        (stubs : (docs : Bool) → List GeneratedFile) (manifest index : GeneratedFile),
        (∀ docs, ∀ file ∈ stubs docs, file.kind = .rust) ∧
        manifest.path = "manifest.json" ∧ manifest.kind = .json ∧
        index.path = "OPERATIONS.md" ∧ index.kind = .markdown ∧
        ∀ settings, schema.generate settings rules = .ok
          { name := schema.name
            files := (if settings.emitStubs then stubs settings.generateDocs else []) ++
              (if settings.emitManifest then [manifest] else []) ++
              if settings.generateDocs then [index] else []
            warnings, surfaces }) := by
  refine ⟨fun settings => schema.generateSideBySide_eq settings rules, ?_⟩
  cases outcome : schema.deriveAll rules with
  | error fault =>
      refine Or.inl ⟨fault, fun settings => ?_⟩
      rw [generate, outcome]
      rfl
  | ok found =>
      obtain ⟨warnings, derived⟩ := found
      refine Or.inr ⟨derived.map DerivedEntity.surface, warnings,
        fun docs => StubEmitter.filesOf docs derived,
        { path := "manifest.json", content := (schema.manifestOf derived).text, kind := .json },
        Project.operationsIndex schema.name (derived.map DerivedEntity.surface),
        fun _ _ => StubEmitter.kind_of_mem_filesOf, rfl, rfl, rfl, rfl, fun settings => ?_⟩
      simp only [generate, outcome, emit_eq, bind, Except.bind, pure, Except.pure]
      rfl

end Schema

end EntitySurface
