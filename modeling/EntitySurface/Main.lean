import EntitySurface.CommandLine.Answer

/-!
# The program

Reads the command line and the configuration file, prints the answer, and writes generated files to
disk.
-/

namespace EntitySurface.CommandLine

/-- How to call the program. -/
def usageText : String :=
  "Derive operation surfaces from property-composed entities\n\n"
    ++ "Usage: capforge [OPTIONS] <COMMAND>\n\n"
    ++ "Commands:\n"
    ++ "  list    List the bundled demo schemas\n"
    ++ "  derive  Derive the operation surface of a demo schema\n"
    ++ "  hooks   Show the resolved hook chains of one entity\n"
    ++ "  help    Print this message\n\n"
    ++ "Options:\n"
    ++ "  -v, --verbose          Raise log verbosity (-v debug, -vv trace)\n"
    ++ "      --config <CONFIG>  Configuration file [default: " ++ defaultConfigPath ++ "]\n"
    ++ "  -h, --help             Print help\n"
    ++ "  -V, --version          Print version\n"

/-- A usage problem in words. -/
def usageMessage : UsageProblem → String
  | .helpAsked | .nothingGiven => usageText
  | .versionAsked => "capforge " ++ version ++ "\n"
  | .missingCommand => "error: a command is required\n"
  | .unknownCommand => "error: there is no such command\n"
  | .invalidValue => "error: an option has no valid value\n"
  | .missingArgument => "error: an argument is missing\n"
  | .unknownArgument => "error: unexpected argument\n"
  | .surplusValue => "error: an option takes no value\n"
  | .repeatedOption => "error: an option is given more than once\n"
where
  version := "0.1.0"

/-- Read the configuration file; a missing file sets nothing. -/
def loadConfiguration (path : String) : IO (Except Fault Configuration) := do
  try
    let text ← IO.FS.readFile path
    pure (Configuration.read text)
  catch
    | .noFileOrDirectory .. => pure (.ok {})
    | _ => pure (.error (.unreadable path))

/-- Refuse an output directory that holds something. -/
def checkDirectory (directory : String) : IO (Except Fault Unit) := do
  try
    let entries ← (← IO.FS.realPath directory).readDir
    pure (if entries.isEmpty then .ok () else .error (.outputExists directory))
  catch
    | .noFileOrDirectory .. => pure (.ok ())
    | _ => pure (.error (.unreadable directory))

/-- Write one file, and the directories above it where they are missing. -/
def writeFile (directory : String) (file : GeneratedFile) : IO (Except Fault Unit) := do
  let target := directory ++ "/" ++ file.path
  let parent := "/".intercalate ((target.splitOn "/").dropLast)
  try
    IO.FS.createDirAll parent
  catch _ => return .error (.directoryNotCreated parent)
  try
    IO.FS.writeFile target file.content
    pure (.ok ())
  catch _ => pure (.error (.unwritable target))

/-- Write files up to the first fault. -/
def writeFiles (directory : String) : List GeneratedFile → IO (Except Fault Unit)
  | [] => pure (.ok ())
  | file :: rest => do
      match ← writeFile directory file with
      | .error fault => pure (.error fault)
      | .ok () => writeFiles directory rest

/-- Derive a demonstration schema and write the files to disk. -/
def deriveInto (demo : String) (format : OutputFormat) (output : String)
    (configuration : Configuration) : IO (Except Failure String) := do
  match buildDemo demo with
  | .error failure => pure (.error failure)
  | .ok schema =>
      let settings := configuration.settingsFor (some output)
      let free ← if settings.overwrite then pure (.ok ()) else checkDirectory output
      match free >>= fun _ => schema.generate settings with
      | .error fault => pure (.error (.writing output fault))
      | .ok project =>
          match ← writeFiles output project.files with
          | .error fault => pure (.error (.writing output fault))
          | .ok () => pure (.ok (projectText format project ++ project.summary.text))

/-- Carry out a command. -/
def carryOut (request : Request) (configuration : Configuration) : IO (Except Failure String) :=
  match request with
  | .derive demo format (some output) => deriveInto demo format output configuration
  | request => pure (answer request configuration {}).2

end EntitySurface.CommandLine

open EntitySurface EntitySurface.CommandLine in
/-- Read the command line, carry out what it asks for and return the exit code. -/
def main (arguments : List String) : IO UInt32 := do
  match Invocation.read arguments with
  | .error problem =>
      let asked := problem == .helpAsked || problem == .versionAsked
      if asked then IO.print (usageMessage problem) else IO.eprint (usageMessage problem)
      pure (if asked then 0 else 2)
  | .ok invocation =>
      match ← loadConfiguration invocation.configPath with
      | .error fault =>
          IO.eprintln ("Error: loading " ++ invocation.configPath ++ ": " ++ fault.message)
          pure 1
      | .ok configuration =>
          match ← carryOut invocation.request configuration with
          | .error failure =>
              IO.eprintln ("Error: " ++ failure.message)
              pure 1
          | .ok text =>
              IO.print text
              pure 0
