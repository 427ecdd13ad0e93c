import EntitySurface.Configuration
import EntitySurface.Json.Form
import EntitySurface.Summary

/-!
# JSON forms of projects

Generated projects, the settings of a generation and configurations.
-/

namespace EntitySurface

/-- A file with its content or, in brief, with its size. -/
def GeneratedFile.json (brief : Bool) (file : GeneratedFile) : Json :=
  .object [
    ("path", toJson file.path), ("type", toJson file.kind.word),
    if brief then ("bytes", .natural file.content.utf8ByteSize)
    else ("content", toJson file.content)]

/-- The numbers of a summary in the order in which it declares them. -/
def Summary.counts (summary : Summary) : List Nat :=
  [summary.entities, summary.operations, summary.pages, summary.totalFiles, summary.rustFiles,
   summary.jsonFiles, summary.otherFiles, summary.warnings, summary.totalBytes]

/-- A project with its files, its warnings and its summary. -/
def Project.json (brief : Bool) (project : Project) : Json :=
  .object [
    ("name", toJson project.name), ("files", .array (project.files.map (GeneratedFile.json brief))),
    ("warnings", toJson project.warnings), ("has_warnings", toJson !project.warnings.isEmpty),
    ("file_count", .natural project.files.length),
    ("operation_count", .natural project.operationCount),
    ("page_count", .natural project.pageCount),
    ("counts", .array (project.summary.counts.map Json.natural)),
    ("summary", toJson project.summary.text)]

/-- The settings under the keys of a configuration file. -/
def GenerationSettings.json (settings : GenerationSettings) : Json :=
  .object [
    ("output_dir", toJson settings.outputDirectory), ("emit_rust", toJson settings.emitStubs),
    ("emit_manifest", toJson settings.emitManifest),
    ("generate_docs", toJson settings.generateDocs), ("overwrite", toJson settings.overwrite),
    ("options", toJson settings.options)]

/-- A configuration with both of its sections. -/
def Configuration.json (configuration : Configuration) : Json :=
  .object [
    ("generator", configuration.generation.json),
    ("logging", .object [("level", toJson configuration.logLevel.word)])]

end EntitySurface
