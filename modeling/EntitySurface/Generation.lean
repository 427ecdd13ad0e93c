import EntitySurface.Derivation.Rule
import EntitySurface.Emission.Manifest
import EntitySurface.Emission.Stub
import EntitySurface.Validation.Rule

/-!
# Generating a project

A finalized schema is validated, the surface of every entity is derived, and the surfaces are passed
to the emitters that the settings ask for. Validation errors end the generation, warnings are kept
with the project.
-/

namespace EntitySurface

/-- What a generation writes and where. -/
structure GenerationSettings where
  outputDirectory : String := "./generated"
  emitStubs : Bool := true
  emitManifest : Bool := true
  /-- Stubs are documented and an index of operations is written. -/
  generateDocs : Bool := true
  /-- Files may be written into a directory that is not empty. -/
  overwrite : Bool := false
  options : Dictionary String := .empty

/-- An entity with all that was derived from it. -/
structure DerivedEntity where
  entity : Entity
  surface : Surface
  /-- The chains of the methods that have hooks. -/
  chains : List HookChain
  deriving DecidableEq

namespace DerivedEntity

/-- The calls that pass a derived entity to an emitter. -/
def calls (derived : DerivedEntity) : List EmitterCall :=
  .beginEntity derived.entity
    :: derived.surface.operations.map EmitterCall.operation
    ++ derived.surface.pages.map EmitterCall.page
    ++ .block (.actionGroups derived.surface.groups)
    :: derived.chains.map (fun chain => .block (.hookChain chain))
    ++ derived.surface.searchPlan.toList.map (fun plan => .block (.search plan))
    ++ [.endEntity]

end DerivedEntity

namespace Schema

/-- Derive entities in order, up to the first fault. -/
def deriveEach (rules : List DerivationRule) : List Entity → Except Fault (List DerivedEntity)
  | [] => .ok []
  | entity :: rest => do
      let surface ← Surface.derive rules entity
      let chains ← entity.hookChains
      let others ← deriveEach rules rest
      pure ({ entity, surface, chains := chains.filter fun chain => !chain.isEmpty } :: others)

/-- Validate a finalized schema and derive all its entities; the warnings come with them. -/
def deriveAll (schema : Schema) (rules : List DerivationRule) :
    Except Fault (List String × List DerivedEntity) :=
  if !schema.isFinalized then .error (.schemaNotFinalized schema.name)
  else
    let report := schema.validate ValidationRule.standard
    match report.toFault? with
    | some fault => .error fault
    | none => do
        let derived ← deriveEach rules schema.entities
        pure (report.warnings.map WarningFinding.text, derived)

end Schema

namespace Project

/-- One row of the index of operations. -/
def indexRow (operation : Operation) : String :=
  "| " ++ operation.name ++ " | " ++ ", ".intercalate (operation.inputs.map Argument.text) ++ " | "
    ++ ", ".intercalate (operation.outputs.map Argument.text) ++ " | "
    ++ ", ".intercalate (operation.groups.map GroupKind.suffix) ++ " |\n"

/-- The table of the operations of one entity. -/
def indexSection (surface : Surface) : String :=
  "\n## " ++ surface.entity.text ++ "\n\n"
    ++ "| Operation | Inputs | Outputs | Groups |\n"
    ++ "|-----------|--------|---------|--------|\n"
    ++ "".intercalate (surface.operations.map indexRow)

/-- The index of operations: the menu, then the operations of every entity. -/
def operationsIndex (name : String) (surfaces : List Surface) : GeneratedFile :=
  let menu := (surfaces.flatMap Surface.menuEntries).map fun entry =>
    "- " ++ entry.label ++ " (`" ++ entry.page ++ "`)\n"
  { path := "OPERATIONS.md"
    content := "# " ++ name ++ " operations\n\n## Menu\n\n" ++ "".intercalate menu
      ++ "".intercalate (surfaces.map indexSection)
    kind := .markdown }

/-- Put a project together from what was derived and the files of the emitters. -/
def assemble (schema : Schema) (docs : Bool) (warnings : List String)
    (derived : List DerivedEntity) (files : List GeneratedFile) : Project :=
  let surfaces := derived.map DerivedEntity.surface
  { name := schema.name
    files := files ++ if docs then [operationsIndex schema.name surfaces] else []
    warnings, surfaces }

end Project

namespace Schema

/-- The files of the emitters that the settings ask for. -/
def emit (schema : Schema) (settings : GenerationSettings) (calls : List EmitterCall) :
    Except Fault (List GeneratedFile) := do
  let stubs ← if settings.emitStubs then
      Emitter.run ({ docs := settings.generateDocs } : StubEmitter) calls
    else pure []
  let manifest ← if settings.emitManifest then
      Emitter.run ({ schema := schema.name } : ManifestEmitter) calls
    else pure []
  pure (stubs ++ manifest)

/-- Generate a project by the given derivation rules. -/
def generate (schema : Schema) (settings : GenerationSettings)
    (rules : List DerivationRule := DerivationRule.standard) : Except Fault Project := do
  let (warnings, derived) ← schema.deriveAll rules
  let files ← schema.emit settings (derived.flatMap DerivedEntity.calls)
  pure (.assemble schema settings.generateDocs warnings derived files)

/-- Generate a project with one emitter of the caller's; the emitter's final state comes with it. -/
def generateWith {ε : Type} [Emitter ε] (schema : Schema) (docs : Bool)
    (rules : List DerivationRule) (emitter : ε) : Except Fault (Project × ε) := do
  let (warnings, derived) ← schema.deriveAll rules
  let final ← Emitter.takeAll emitter (derived.flatMap DerivedEntity.calls)
  let (files, final) ← Emitter.finish final
  pure (.assemble schema docs warnings derived files, final)

end Schema

end EntitySurface
