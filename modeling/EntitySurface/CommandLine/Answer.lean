import EntitySurface.CommandLine.Invocation
import EntitySurface.Configuration
import EntitySurface.Demo
import EntitySurface.FileTree
import EntitySurface.Json.Printer
import EntitySurface.Json.Surfaces
import EntitySurface.Summary

/-!
# Answers to invocations

The texts that the commands print, and the ways in which a command fails. A command that writes
files changes a file tree.
-/

namespace EntitySurface.CommandLine

/-- Why a command fails. -/
inductive Failure where
  | unknownDemo (demo : String)
  | unknownEntity (demo entity : String)
  | composing (demo : String) (fault : Fault)
  | writing (directory : String) (fault : Fault)
  | engine (fault : Fault)
  deriving DecidableEq

namespace Failure

/-- The failure in words: what was being done, then the cause. -/
def message : Failure → String
  | unknownDemo demo => "Unknown demo '" ++ demo ++ "' (run `capforge list`)"
  | unknownEntity demo entity => "Demo '" ++ demo ++ "' has no entity '" ++ entity ++ "'"
  | composing demo fault => "composing demo '" ++ demo ++ "': " ++ fault.message
  | writing directory fault => "writing into " ++ directory ++ ": " ++ fault.message
  | engine fault => fault.message

/-- The fault behind a failure, if there is one. -/
def fault? : Failure → Option Fault
  | unknownDemo _ | unknownEntity _ _ => none
  | composing _ fault | writing _ fault | engine fault => some fault

end Failure

/-- How much is logged: what was asked for on the command line, or else what is configured. -/
def Invocation.logLevel (invocation : Invocation) (configuration : Configuration) : LogLevel :=
  match invocation.verbosity with
  | 0 => configuration.logLevel
  | 1 => .debug
  | _ => .trace

/-- The list of demonstration schemas. -/
def listText : String :=
  "Demo schemas\n" ++ "".intercalate (Demo.all.map fun demo =>
    "  " ++ Summary.padTo 10 demo.name ++ " " ++ demo.description ++ "\n")

/-- The line of an operation. -/
def operationLine (operation : Operation) : String :=
  "  " ++ operation.name
    ++ "(" ++ ", ".intercalate (operation.inputs.map Argument.text) ++ ") -> ("
    ++ ", ".intercalate (operation.outputs.map Argument.text) ++ ") ["
    ++ ", ".intercalate (operation.groups.map GroupKind.suffix) ++ "]\n"

/-- The operations, pages and menu entries of one entity. -/
def surfaceText (surface : Surface) : String :=
  "\n" ++ surface.entity.text ++ "\n"
    ++ "".intercalate (surface.operations.map operationLine)
    ++ "".intercalate (surface.pages.map fun page =>
        "  page " ++ page.name ++ " -> " ++ page.linkedOperation ++ "\n")
    ++ "".intercalate (surface.menuEntries.map fun entry =>
        "  menu " ++ entry.label ++ " (" ++ entry.page ++ ")\n")

/-- The warnings of a generation, then the derived surfaces. -/
def projectText (format : OutputFormat) (project : Project) : String :=
  "".intercalate (project.warnings.map fun warning => "warning: " ++ warning ++ "\n")
    ++ match format with
      | .json => (toJson project.surfaces).pretty ++ "\n"
      | .text => "".intercalate (project.surfaces.map surfaceText)

/-- One chain: its title, then its numbered statements. -/
def chainText (chain : HookChain) : String :=
  if chain.isEmpty then "  " ++ chain.title ++ " (no hooks)\n"
  else "  " ++ chain.title ++ "\n" ++ "".intercalate (chain.statements.mapIdx fun place statement =>
    "    " ++ toString (place + 1) ++ ". " ++ statement.text ++ "\n")

/-- Build a demonstration schema. -/
def buildDemo (name : String) : Except Failure Schema :=
  match Demo.find? name with
  | none => .error (.unknownDemo name)
  | some demo => demo.build.mapError (.composing demo.name)

/-- The hook chains of one entity. -/
def hooksText (demo entity : String) : Except Failure String := do
  let schema ← buildDemo demo
  match schema.find? entity with
  | none => throw (.unknownEntity demo entity)
  | some found =>
      let chains ← found.hookChains.mapError Failure.engine
      pure (found.key.text ++ "\n" ++ "".intercalate (chains.map chainText))

/-- Derive a demonstration schema without writing files. -/
def derivedText (demo : String) (format : OutputFormat) (configuration : Configuration) :
    Except Failure String := do
  let schema ← buildDemo demo
  let project ← (schema.generate (configuration.settingsFor none)).mapError Failure.engine
  pure (projectText format project)

/-- Derive a demonstration schema and write the files into a directory; a summary comes last. -/
def writtenText (demo : String) (format : OutputFormat) (output : String)
    (configuration : Configuration) (tree : FileTree) : FileTree × Except Failure String :=
  match buildDemo demo with
  | .error failure => (tree, .error failure)
  | .ok schema =>
      match schema.generateInto (configuration.settingsFor (some output)) tree with
      | (tree, .error fault) => (tree, .error (.writing output fault))
      | (tree, .ok project) => (tree, .ok (projectText format project ++ project.summary.text))

/-- What a command prints, and the files after it. -/
def answer (request : Request) (configuration : Configuration) (tree : FileTree) :
    FileTree × Except Failure String :=
  match request with
  | .list => (tree, .ok listText)
  | .hooks demo entity => (tree, hooksText demo entity)
  | .derive demo format none => (tree, derivedText demo format configuration)
  | .derive demo format (some output) => writtenText demo format output configuration tree

end EntitySurface.CommandLine
