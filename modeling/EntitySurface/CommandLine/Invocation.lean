/-!
# Invocations

What a command line asks for: one of three commands, a configuration file, and how much is logged.
Options may be given as `--name value` or `--name=value`, single letters may be joined, and after
`--` nothing is read as an option. The options on logging and configuration may stand before and
after the command; where both are given, the one after it counts.
-/

namespace EntitySurface.CommandLine

/-- How a derived surface is printed. -/
inductive OutputFormat where
  | text
  | json
  deriving DecidableEq

namespace OutputFormat

/-- The format as it is given on the command line. -/
def word : OutputFormat → String
  | text => "text"
  | json => "json"

/-- The format of which this is the word. -/
def ofWord? (word : String) : Option OutputFormat :=
  [text, json].find? fun format => format.word == word

end OutputFormat

/-- A command with its arguments. -/
inductive Request where
  /-- List the demonstration schemas. -/
  | list
  /-- Derive the surface of a demonstration schema; `output` names a directory for the files. -/
  | derive (demo : String) (format : OutputFormat) (output : Option String)
  /-- Show the hook chains of one entity. -/
  | hooks (demo entity : String)
  deriving DecidableEq

/-- What a command line asks for. -/
structure Invocation where
  /-- How often more logging was asked for. -/
  verbosity : Nat
  configPath : String
  request : Request
  deriving DecidableEq

/-- Why a command line asks for nothing that can be done. Two of these are answered by printing. -/
inductive UsageProblem where
  | helpAsked
  | versionAsked
  /-- Nothing was given at all. -/
  | nothingGiven
  | missingCommand
  | unknownCommand
  /-- A value is missing, or is not one that the option takes. -/
  | invalidValue
  | missingArgument
  | unknownArgument
  /-- A value was given to an option that takes none. -/
  | surplusValue
  | repeatedOption
  deriving DecidableEq

/-- The places at which arguments are read: before the command, and after each of them. -/
inductive Level where
  | top
  | list
  | derive
  | hooks
  deriving DecidableEq

/-- The options that take a value. -/
inductive ValueOption where
  | config
  | format
  | output
  deriving DecidableEq

namespace ValueOption

/-- The option of a given name, where the level has it. -/
def ofName? (level : Level) (name : String) : Option ValueOption :=
  match name, level with
  | "config", _ => some config
  | "format", .derive => some format
  | "output", .derive => some output
  | _, _ => none

/-- Paths may not be empty, and a format is one of its words. -/
def accepts (option : ValueOption) (value : String) : Bool :=
  match option with
  | config | output => !value.isEmpty
  | format => (OutputFormat.ofWord? value).isSome

end ValueOption

namespace Level

/-- The words that name a command at this level. -/
def commands : Level → List String
  | top => ["list", "derive", "hooks", "help"]
  | _ => []

/-- How many plain arguments a level takes; all of them are needed. -/
def arity : Level → Nat
  | top | list => 0
  | derive => 1
  | hooks => 2

end Level

/-! ## Reading one level -/

/-- What has been read at one level. -/
structure Reading where
  verbosity : Nat := 0
  /-- Options with their checked values. -/
  settled : List (ValueOption × String) := []
  plain : List String := []
  /-- The last option, whose value is still to come or has not been checked. -/
  pending : Option (ValueOption × Option String) := none
  /-- No more options are read. -/
  plainOnly : Bool := false

namespace Reading

/-- The value that was given for an option. -/
def value? (reading : Reading) (option : ValueOption) : Option String :=
  reading.settled.lookup option

/-- The next argument is the value of an option. -/
def awaitsValue (reading : Reading) : Bool :=
  match reading.pending with
  | some (_, none) => true
  | _ => false

/-- Anything was given at this level. -/
def isGiven (reading : Reading) : Bool :=
  reading.verbosity != 0 || !reading.settled.isEmpty || !reading.plain.isEmpty

/-- Check the last option. -/
def settle (reading : Reading) : Except UsageProblem Reading :=
  match reading.pending with
  | none => .ok reading
  | some (_, none) => .error .invalidValue
  | some (option, some value) =>
      if (reading.value? option).isSome then .error .repeatedOption
      else if option.accepts value then
        .ok { reading with settled := reading.settled ++ [(option, value)], pending := none }
      else .error .invalidValue

/-- Read a flag by its name. -/
def takeFlag (level : Level) (flag : String) (reading : Reading) : Except UsageProblem Reading :=
  match flag, level with
  | "verbose", _ => do
      let reading ← reading.settle
      pure { reading with verbosity := reading.verbosity + 1 }
  | "help", _ => do
      let _ ← reading.settle
      throw .helpAsked
  | "version", .top => do
      let _ ← reading.settle
      throw .versionAsked
  | _, _ => .error .unknownArgument

/-- Flags by their letters. -/
def flagOfLetter (letter : Char) : String :=
  match letter with
  | 'v' => "verbose"
  | 'h' => "help"
  | 'V' => "version"
  | _ => ""

/-- The level has a flag of this name. -/
def isFlag (level : Level) (name : String) : Bool :=
  name == "verbose" || name == "help" || (name == "version" && level == .top)

/-- Read a named option, with the value that was attached to it. -/
def takeNamed (level : Level) (name : String) (attached : Option String) (reading : Reading) :
    Except UsageProblem Reading :=
  match ValueOption.ofName? level name, attached with
  | some option, some value => do
      let reading ← reading.settle
      settle { reading with pending := some (option, some value) }
  | some option, none => do
      let reading ← reading.settle
      pure { reading with pending := some (option, none) }
  | none, some _ => .error (if isFlag level name then .surplusValue else .unknownArgument)
  | none, none => reading.takeFlag level name

/-- Read an argument that is no option. -/
def takePlain (level : Level) (argument : String) (reading : Reading) :
    Except UsageProblem Reading :=
  if reading.plain.length < level.arity then do
    let reading ← reading.settle
    pure { reading with plain := reading.plain ++ [argument] }
  else if level == .top && !level.commands.contains argument then .error .unknownCommand
  else .error .unknownArgument

/-- Split a named option from the value attached to it. -/
def splitNamed (text : List Char) : String × Option String :=
  match text.dropWhile (· != '=') with
  | [] => (String.ofList text, none)
  | _ :: value => (String.ofList (text.takeWhile (· != '=')), some (String.ofList value))

/-- Read one argument. -/
def take (level : Level) (argument : String) (reading : Reading) :
    Except UsageProblem Reading :=
  if reading.plainOnly then reading.takePlain level argument
  else
    match argument.toList, reading.pending with
    | ['-', '-'], _ => .ok { reading with plainOnly := true }
    | '-' :: '-' :: text, _ =>
        let (name, attached) := splitNamed text
        reading.takeNamed level name attached
    | '-' :: letter :: letters, _ =>
        (letter :: letters).foldlM
          (fun reading letter => reading.takeFlag level (flagOfLetter letter)) reading
    | _, some (option, none) => .ok { reading with pending := some (option, some argument) }
    | _, _ => reading.takePlain level argument

/-- Read arguments up to a command; the command comes with the arguments after it. -/
def takeAll (level : Level) (reading : Reading) :
    List String → Except UsageProblem (Reading × Option (String × List String))
  | [] => .ok (reading, none)
  | argument :: rest =>
      if level.commands.contains argument && !reading.plainOnly && !reading.awaitsValue then
        .ok (reading, some (argument, rest))
      else do
        let reading ← reading.take level argument
        reading.takeAll level rest

end Reading

/-! ## Reading a command line -/

/-- Help is given on the program and on each command. -/
def helpOn (names : List String) : UsageProblem :=
  match names with
  | [] => .helpAsked
  | [name] => if Level.top.commands.contains name then .helpAsked else .unknownCommand
  | _ => .unknownCommand

/-- Read the arguments after a command. -/
def readLevel (level : Level) (arguments : List String) : Except UsageProblem Reading := do
  let (reading, _) ← Reading.takeAll level {} arguments
  let reading ← reading.settle
  if reading.plain.length < level.arity then throw .missingArgument
  pure reading

/-- Read a command with the arguments after it. -/
def readRequest (name : String) (arguments : List String) :
    Except UsageProblem (Reading × Request) :=
  match name with
  | "list" => do
      let reading ← readLevel .list arguments
      pure (reading, .list)
  | "derive" => do
      let reading ← readLevel .derive arguments
      let format := (reading.value? .format).bind OutputFormat.ofWord?
      match reading.plain with
      | [demo] => pure (reading, .derive demo (format.getD .text) (reading.value? .output))
      | _ => throw .missingArgument
  | "hooks" => do
      let reading ← readLevel .hooks arguments
      match reading.plain with
      | [demo, entity] => pure (reading, .hooks demo entity)
      | _ => throw .missingArgument
  | _ => .error (helpOn arguments)

/-- The configuration file that is looked for when none is named. -/
def defaultConfigPath : String := "capforge.toml"

/-- Read a command line. -/
def Invocation.read (arguments : List String) : Except UsageProblem Invocation := do
  let (outer, command?) ← Reading.takeAll .top {} arguments
  match command? with
  | none =>
      let outer ← outer.settle
      throw (if outer.isGiven then .missingCommand else .nothingGiven)
  | some (name, rest) =>
      let (inner, request) ← readRequest name rest
      let outer ← outer.settle
      let config := (inner.value? .config <|> outer.value? .config).getD defaultConfigPath
      pure {
        verbosity := if inner.verbosity == 0 then outer.verbosity else inner.verbosity
        configPath := config
        request }

end EntitySurface.CommandLine
