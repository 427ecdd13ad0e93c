import EntitySurface.Generation
import EntitySurface.Toml.Reader

/-!
# Configurations

What can be set in a configuration file: how projects are generated, and how much is logged. What a
file does not set keeps its default; a setting that does not exist is refused, as is a value of the
wrong type.
-/

namespace EntitySurface

/-- How much is logged. -/
inductive LogLevel where
  | error
  | warn
  | info
  | debug
  | trace
  deriving DecidableEq

namespace LogLevel

/-- All levels, from the tersest to the most detailed. -/
def all : List LogLevel :=
  [error, warn, info, debug, trace]

/-- The level as a configuration gives it. -/
def word : LogLevel → String
  | error => "error"
  | warn => "warn"
  | info => "info"
  | debug => "debug"
  | trace => "trace"

/-- The level of which this is the word. -/
def ofWord? (word : String) : Option LogLevel :=
  all.find? fun level => level.word == word

end LogLevel

/-- The settings of a configuration file. -/
structure Configuration where
  generation : GenerationSettings := {}
  logLevel : LogLevel := .info

namespace Configuration

/-- The value of a setting, or its default where it is not set. -/
def setting {α : Type} (default : α) (read : Toml → Option α) : Option Toml → Option α
  | none => some default
  | some value => read value

/-- The name under which a date or time stands where a table is expected. -/
def momentName : String :=
  "$__toml_private_datetime"

/-- Free options: a table of strings. A date or time counts as a table with one entry. -/
def readOptions : Toml → Option (Dictionary String)
  | .moment text => some (.ofList [(momentName, text)])
  | .table _ entries => do
      let options ← entries.mapM fun (entry : String × Toml) => do
        let text ← entry.2.string?
        pure (entry.1, text)
      pure (.ofList options)
  | _ => none

/-- The generator's settings. -/
def readGeneration (value : Toml) : Option GenerationSettings := do
  let standard : GenerationSettings := {}
  match ← value.settings? ["output_dir", "emit_rust", "emit_manifest", "generate_docs",
      "overwrite", "options"] with
  | [directory, stubs, manifest, docs, overwrite, options] =>
      let outputDirectory ← setting standard.outputDirectory Toml.string? directory
      let emitStubs ← setting standard.emitStubs Toml.boolean? stubs
      let emitManifest ← setting standard.emitManifest Toml.boolean? manifest
      let generateDocs ← setting standard.generateDocs Toml.boolean? docs
      let overwrite ← setting standard.overwrite Toml.boolean? overwrite
      let options ← setting standard.options readOptions options
      pure { outputDirectory, emitStubs, emitManifest, generateDocs, overwrite, options }
  | _ => none

/-- The word for the log level; which words there are is not checked yet. -/
def readLogging (value : Toml) : Option String := do
  match ← value.settings? ["level"] with
  | [level] => setting LogLevel.info.word Toml.string? level
  | _ => none

/-- The generator's settings and the word for the log level. -/
def readSections (document : Toml) : Option (GenerationSettings × String) := do
  match ← document.settings? ["generator", "logging"] with
  | [generation, logging] =>
      let generation ← setting {} readGeneration generation
      let level ← setting LogLevel.info.word readLogging logging
      pure (generation, level)
  | _ => none

/-- Read a configuration file. -/
def read (text : String) : Except Fault Configuration :=
  match (Toml.parse? text).bind readSections with
  | none => .error (.invalidConfig .malformed)
  | some (generation, word) =>
      match LogLevel.ofWord? word with
      | some logLevel => .ok { generation, logLevel }
      | none => .error (.invalidConfig (.unknownLevel word (LogLevel.all.map LogLevel.word)))

/-- The settings for a generation; a given output directory is taken in place of the one set. -/
def settingsFor (configuration : Configuration) (outputDirectory : Option String) :
    GenerationSettings :=
  { configuration.generation with
    outputDirectory := outputDirectory.getD configuration.generation.outputDirectory }

end Configuration

end EntitySurface
