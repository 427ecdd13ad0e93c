import EntitySurface.Schema.Composition

/-!
# Composition runs

Each composition step as a value, so that runs of steps can be spoken about: a command is executed
on a schema, and a schema is reachable when some run of commands, each of which may succeed or fail,
leads to it from an empty schema.
-/

namespace EntitySurface

/-- A composition step with its arguments. -/
inductive Command where
  | category (category : ChoiceCategory)
  | entity (space name label : String)
  | describe (entity : EntityKey) (text : String)
  | field (entity : EntityKey) (field : Field)
  | property (entity : EntityKey) (property : Property) (visibility : Visibility)
  | rule (entity : EntityKey) (property : String) (rule : BusinessRule)
  | hook (entity : EntityKey) (declaring method origin : String) (phase : HookPhase)
  | widget (entity : EntityKey) (element : ElementRef) (isPrimary : Bool)
      (category : Option ChoiceKey)
  | tab (entity : EntityKey) (tab : DisplayTab)
  | loaderAlias (entity : EntityKey) (added : LoaderAlias)
  | finish
  deriving DecidableEq

namespace Command

/-- The step that a command stands for. -/
def step : Command → Composer Unit
  | .category added => Composer.registerCategory added
  | .entity space name label => do
      let _ ← Composer.newEntity space name label
  | .describe key text => Composer.describeEntity key text
  | .field key added => Composer.attachField key added
  | .property key added visibility => Composer.attach key added visibility
  | .rule key name added => Composer.attachRule key name added
  | .hook key declaring method origin phase =>
      Composer.declareHook key declaring method origin phase
  | .widget key element isPrimary choice => Composer.declareWidget key element isPrimary choice
  | .tab key added => Composer.addTab key added
  | .loaderAlias key added => Composer.addAlias key added
  | .finish => Composer.finish

end Command

namespace Schema

/-- The schema after a command, and the fault if the command failed. -/
def execute (schema : Schema) (command : Command) : Schema × Option Fault :=
  match command.step schema with
  | .ok () changed => (changed, none)
  | .error fault changed => (changed, some fault)

/-- Execute commands in order, going on after a failure, and list what each came to. -/
def executeAll (schema : Schema) : List Command → Schema × List (Option Fault)
  | [] => (schema, [])
  | command :: rest =>
      let (changed, outcome) := schema.execute command
      let (final, outcomes) := changed.executeAll rest
      (final, outcome :: outcomes)

/-- Execute commands in order up to the first failure. -/
def compose (schema : Schema) : List Command → Except Fault Schema
  | [] => .ok schema
  | command :: rest =>
      match schema.execute command with
      | (changed, none) => changed.compose rest
      | (_, some fault) => .error fault

/-- The schemas that composition runs lead to. -/
inductive Reachable : Schema → Prop where
  | start (name : String) : Reachable { name }
  | step {schema : Schema} (command : Command) (reached : Reachable schema) :
      Reachable (schema.execute command).1

end Schema

end EntitySurface
