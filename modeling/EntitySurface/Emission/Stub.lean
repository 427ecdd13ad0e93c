import EntitySurface.Derivation.Arguments
import EntitySurface.Emission.Emitter
import EntitySurface.Emission.Layout

/-!
# Operation stubs in Rust

One Rust module per entity: a function stub per operation, a constant per page and action group, the
search columns, and one function per hook chain that calls the hooks around a method in order. The
modules of one namespace share a directory, whose `mod.rs` declares them.
-/

namespace EntitySurface

/-- The Rust type of a value. -/
def FieldType.rustType : FieldType → String
  | .text _ => "String"
  | .choice _ false => "ChoiceCode"
  | .choice _ true => "Vec<ChoiceCode>"
  | .decimal _ _ => "Decimal"
  | .integer => "i64"
  | .boolean => "bool"
  | .date => "NaiveDate"
  | .timestamp => "NaiveDateTime"
  | .binary => "Vec<u8>"
  | .objectId entity => "Id<" ++ entity.name ++ ">"

/-- The Rust type of an argument. -/
def Argument.rustType (argument : Argument) : String :=
  let base := match argument.kind with
    | .object entity => entity.name
    | .objects entity => "Vec<" ++ entity.name ++ ">"
    | .value type => type.rustType
    | .values type => "Vec<" ++ type.rustType ++ ">"
    | .dateRange => "DateRange"
    | .file => "FileContent"
  if argument.optional then "Option<" ++ base ++ ">" else base

namespace Stub

/-- Lines at the left margin. -/
def outer : Layout := {}

/-- Lines inside a body. -/
def inner : Layout := outer.deeper

/-- The type that a stub returns: several outputs make a tuple. -/
def outputType : List Argument → String
  | [] => "()"
  | [single] => single.rustType
  | several => "(" ++ ", ".intercalate (several.map Argument.rustType) ++ ")"

/-- The documentation of an operation's stub. -/
def operationDocs (operation : Operation) : List String :=
  ["/// " ++ operation.name]
    ++ (if operation.groups.isEmpty then []
      else
        let names := operation.groups.map fun group => group.groupName operation.entity
        ["///", "/// Groups: " ++ ", ".intercalate names])
    ++ match operation.criterionArgument? with
      | some criterion => ["/// Access criterion: `" ++ criterion.name ++ "`"]
      | none => []

/-- The stub of an operation. -/
def operationText (docs : Bool) (operation : Operation) : String :=
  let parameters := operation.inputs.map fun argument =>
    argument.name ++ ": " ++ argument.rustType
  outer.lines (if docs then operationDocs operation else [])
    ++ outer.line ("pub fn " ++ Text.snakeCase operation.name ++ "("
      ++ ", ".intercalate parameters ++ ") -> OperationResult<" ++ outputType operation.outputs
      ++ "> \x7b")
    ++ inner.line ("unimplemented!(\"" ++ operation.name ++ "\")")
    ++ outer.lines ["\x7d", ""]

/-- The constant of a page, after its tabs. -/
def pageText (page : Page) : String :=
  let tabs := if page.tabs.isEmpty then "" else "// tabs: " ++ ", ".intercalate page.tabs ++ "\n"
  tabs ++ "pub const " ++ Text.uppercase (Text.snakeCase page.name) ++ ": (&str, &str) = (\""
    ++ page.name ++ "\", \"" ++ page.linkedOperation ++ "\");\n"

/-- The line of one step of a woven method; `origin` is the module of the method's property. -/
def statementText (origin : String) : HookStatement → String
  | .materializeBatch property =>
      let name := Text.snakeCase property
      "let " ++ name ++ "_batch = " ++ name ++ "::materialize(items);"
  | .invokeHook property label _ batched =>
      let name := Text.snakeCase property
      name ++ "::" ++ Text.snakeCase label ++ "("
        ++ (if batched then "&" ++ name ++ "_batch" else "item") ++ ")?;"
  | .methodBody method _ bulk =>
      origin ++ "::" ++ method ++ if bulk then "_massive(items)?;" else "(item)?;"

/-- The name of the function of a hook chain. -/
def chainFunction (chain : HookChain) : String :=
  chain.method ++ "_" ++ Text.snakeCase chain.origin ++ if chain.bulk then "_massive" else ""

/-- The function that runs a woven method. -/
def chainText (docs : Bool) (chain : HookChain) : String :=
  let parameter :=
    if chain.bulk then "items: &mut [" ++ chain.entity.name ++ "]"
    else "item: &mut " ++ chain.entity.name
  let heading :=
    if docs then
      ["/// Hooks around `" ++ chain.origin ++ "." ++ chain.method ++ "`"
        ++ if chain.bulk then " (massive)" else ""]
    else []
  outer.lines heading
    ++ outer.line ("pub fn " ++ chainFunction chain ++ "(" ++ parameter
      ++ ") -> OperationResult<()> \x7b")
    ++ inner.lines (chain.statements.map (statementText (Text.snakeCase chain.origin)))
    ++ inner.line "Ok(())"
    ++ outer.lines ["\x7d", ""]

/-- The search columns and the order of the results. -/
def searchText (docs : Bool) (plan : SearchPlan) : String :=
  let name := Text.uppercase (Text.snakeCase plan.entity.name)
  let ordering := match plan.ordering with
    | some ordering => "Some(\"" ++ ordering.text ++ "\")"
    | none => "None"
  outer.lines (if docs then ["/// Search widgets: (argument, column, kind, primary)"] else [])
    ++ outer.line ("pub const " ++ name
      ++ "_SEARCH_COLUMNS: &[(&str, &str, &str, bool)] = &[")
    ++ inner.lines (plan.widgets.map fun widget =>
      "(\"" ++ widget.argument ++ "\", \"" ++ widget.column ++ "\", \"" ++ widget.kind.label
        ++ "\", " ++ (if widget.isPrimary then "true" else "false") ++ "),")
    ++ outer.lines ["];",
      "pub const " ++ name ++ "_SEARCH_ORDER: Option<&str> = " ++ ordering ++ ";", ""]

/-- The members of every action group. -/
def groupsText (groups : GroupSet) : String :=
  outer.lines (groups.groups.map fun group =>
      "pub const " ++ group.name ++ ": &[&str] = &["
        ++ ", ".intercalate (group.operations.map fun operation => "\"" ++ operation ++ "\"")
        ++ "];")
    ++ outer.line ""

/-- The text of a block. -/
def blockText (docs : Bool) : CodeBlock → String
  | .hookChain chain => chainText docs chain
  | .search plan => searchText docs plan
  | .actionGroups groups => groupsText groups

/-- The line at the top of every emitted file. -/
def notice : String := "//! Generated by capforge. Do not edit.\n"

/-- The module of an entity that is not ended yet. -/
structure Module where
  path : String
  entity : EntityKey
  operations : String := ""
  blocks : String := ""
  deriving DecidableEq

/-- The file of a module. -/
def Module.file (module' : Module) : GeneratedFile :=
  { path := module'.path
    content := "//! Operations of " ++ module'.entity.text ++ "\n//!\n" ++ notice
      ++ "\nuse crate::runtime::*;\n\n" ++ module'.operations ++ module'.blocks
    kind := .rust }

/-- The file that declares the modules of a directory. -/
def directoryFile (directory : String) (modules : List String) : GeneratedFile :=
  { path := directory ++ "/mod.rs"
    content := notice ++ "\n"
      ++ "".intercalate (modules.map fun name => "pub mod " ++ name ++ ";\n")
    kind := .rust }

end Stub

/-- The emitter of stubs in its present state. -/
structure StubEmitter where
  /-- Functions and constants are documented. -/
  docs : Bool
  current : Option Stub.Module := none
  files : List GeneratedFile := []
  /-- The modules begun so far, per directory. -/
  modules : Dictionary (List String) := .empty

namespace StubEmitter

/-- The name under which the emitter reports its faults. -/
def name : String := "rust"

/-- Change the open module. -/
def onCurrent (emitter : StubEmitter) (change : Stub.Module → Stub.Module) :
    Except Fault StubEmitter :=
  match emitter.current with
  | some open' => .ok { emitter with current := some (change open') }
  | none => .error (.emission (.noEntity name))

/-- Open the module of an entity. -/
def beginEntity (emitter : StubEmitter) (entity : Entity) : Except Fault StubEmitter :=
  match emitter.current with
  | some open' => .error (.emission (.entityNotEnded name open'.entity))
  | none =>
      let siblings := (emitter.modules.find? entity.moduleDirectory).getD []
      .ok { emitter with
        current := some { path := entity.modulePath, entity := entity.key }
        modules := emitter.modules.insert entity.moduleDirectory
          (siblings ++ [entity.moduleName]) }

/-- End the open module; its file is complete. -/
def endEntity (emitter : StubEmitter) : Except Fault StubEmitter :=
  match emitter.current with
  | some open' => .ok { emitter with current := none, files := emitter.files ++ [open'.file] }
  | none => .error (.emission (.noEntity name))

/-- Take one call into the open module. -/
def take (emitter : StubEmitter) : EmitterCall → Except Fault StubEmitter
  | .beginEntity entity => emitter.beginEntity entity
  | .operation operation =>
      emitter.onCurrent fun open' =>
        { open' with operations := open'.operations ++ Stub.operationText emitter.docs operation }
  | .page page =>
      emitter.onCurrent fun open' => { open' with blocks := open'.blocks ++ Stub.pageText page }
  | .block block =>
      emitter.onCurrent fun open' =>
        { open' with blocks := open'.blocks ++ "\n" ++ Stub.blockText emitter.docs block }
  | .endEntity => emitter.endEntity

/-- Hand over the modules of the ended entities, then the file of every directory in order. -/
def finish (emitter : StubEmitter) : Except Fault (List GeneratedFile × StubEmitter) :=
  match emitter.current with
  | some _ => .error (.emission (.finishInsideEntity name))
  | none =>
      .ok (emitter.files ++ emitter.modules.entries.map fun (directory, modules) =>
            Stub.directoryFile directory modules,
        { emitter with files := [] })

instance : Emitter StubEmitter where
  name := name
  take := take
  blockText emitter := Stub.blockText emitter.docs
  finish := finish

end StubEmitter

end EntitySurface
