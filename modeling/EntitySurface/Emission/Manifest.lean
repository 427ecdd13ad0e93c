import EntitySurface.Emission.Emitter
import EntitySurface.Json.Printer
import EntitySurface.Json.Reader
import EntitySurface.Json.Surfaces

/-!
# The manifest

One JSON document with everything that was derived: per entity its operations, pages, action groups
that have members, woven methods and search plan.
-/

namespace EntitySurface

open JsonForm

/-- A woven method as the manifest lists it. -/
structure WovenMethod where
  method : String
  origin : String
  bulk : Bool
  statements : List HookStatement
  deriving DecidableEq

/-- One entity of a manifest. -/
structure ManifestEntity where
  entity : EntityKey
  label : String
  operations : List Operation
  pages : List Page
  /-- The members of the action groups that have any, by group name. -/
  groups : Dictionary (List String)
  wovenMethods : List WovenMethod
  search : Option SearchPlan

/-- A manifest with the program that wrote it. -/
structure Manifest where
  schema : String
  generator : String
  version : String
  entities : List ManifestEntity

instance : JsonForm WovenMethod where
  toJson woven := .object [
    ("method", toJson woven.method), ("origin", toJson woven.origin),
    ("massive", toJson woven.bulk), ("statements", toJson woven.statements)]
  readJson? source json := do
    let [method, origin, bulk, statements] ←
      json.fields? ["method", "origin", "massive", "statements"] | none
    some ⟨← required source method, ← required source origin, ← required source bulk,
      ← required source statements⟩

instance : JsonForm ManifestEntity where
  toJson entity := .object [
    ("entity", toJson entity.entity), ("label", toJson entity.label),
    ("operations", toJson entity.operations), ("pages", toJson entity.pages),
    ("groups", toJson entity.groups), ("hook_chains", toJson entity.wovenMethods),
    ("search", toJson entity.search)]
  readJson? source json := do
    let [entity, label, operations, pages, groups, wovenMethods, search] ←
      json.fields? ["entity", "label", "operations", "pages", "groups", "hook_chains", "search"]
      | none
    some ⟨← required source entity, ← required source label, ← required source operations,
      ← required source pages, ← required source groups, ← required source wovenMethods,
      ← nullable source search⟩

instance : JsonForm Manifest where
  toJson manifest := .object [
    ("schema", toJson manifest.schema), ("generator", toJson manifest.generator),
    ("version", toJson manifest.version), ("entities", toJson manifest.entities)]
  readJson? source json := do
    let [schema, generator, version, entities] ←
      json.fields? ["schema", "generator", "version", "entities"] | none
    some ⟨← required source schema, ← required source generator, ← required source version,
      ← required source entities⟩

namespace HookChain

/-- The chain as the manifest lists it. -/
def woven (chain : HookChain) : WovenMethod :=
  { method := chain.method, origin := chain.origin, bulk := chain.bulk
    statements := chain.statements }

end HookChain

namespace GroupSet

/-- The members of the groups that have any, by group name. -/
def members (set : GroupSet) : Dictionary (List String) :=
  .ofList <| (set.groups.filter fun group => !group.operations.isEmpty).map fun group =>
    (group.name, group.operations)

end GroupSet

namespace Manifest

/-- The text of a manifest. -/
def text (manifest : Manifest) : String :=
  (toJson manifest).pretty

/-- Read the text of a manifest. -/
def parse? (text : String) : Option Manifest :=
  (Json.parse? text).bind (readJson? .text)

/-- The JSON form of a block, as the manifest would hold it. -/
def blockForm : CodeBlock → Json
  | .hookChain chain => toJson chain.woven
  | .search plan => toJson plan
  | .actionGroups groups => toJson groups.members

/-- The text of a block: compact, with sorted members. -/
def blockText (block : CodeBlock) : String :=
  (blockForm block).sortMembers.compact

end Manifest

/-- The emitter of a manifest in its present state. -/
structure ManifestEmitter where
  schema : String
  current : Option ManifestEntity := none
  entities : List ManifestEntity := []

namespace ManifestEmitter

/-- The name under which the emitter reports its faults. -/
def name : String := "manifest"

/-- The program that manifests name as their generator. -/
def generator : String := "capforge"

/-- The version that manifests name. -/
def version : String := "0.1.0"

/-- The manifest of the ended entities. -/
def manifest (emitter : ManifestEmitter) : Manifest :=
  { schema := emitter.schema, generator, version, entities := emitter.entities }

/-- Change the open entity. -/
def onCurrent (emitter : ManifestEmitter) (change : ManifestEntity → ManifestEntity) :
    Except Fault ManifestEmitter :=
  match emitter.current with
  | some open' => .ok { emitter with current := some (change open') }
  | none => .error (.emission (.noEntity name))

/-- Open the entry of an entity. -/
def beginEntity (emitter : ManifestEmitter) (entity : Entity) : Except Fault ManifestEmitter :=
  match emitter.current with
  | some _ => .error (.emission (.previousNotEnded name))
  | none =>
      .ok { emitter with
        current := some {
          entity := entity.key, label := entity.label, operations := [], pages := []
          groups := .empty, wovenMethods := [], search := none } }

/-- End the open entry; it joins the entries of the manifest. -/
def endEntity (emitter : ManifestEmitter) : Except Fault ManifestEmitter :=
  match emitter.current with
  | some open' => .ok { emitter with current := none, entities := emitter.entities ++ [open'] }
  | none => .error (.emission (.noEntity name))

/-- Take a block into the open entity; groups and search plan replace earlier ones. -/
def addBlock (entity : ManifestEntity) : CodeBlock → ManifestEntity
  | .hookChain chain => { entity with wovenMethods := entity.wovenMethods ++ [chain.woven] }
  | .search plan => { entity with search := some plan }
  | .actionGroups groups => { entity with groups := groups.members }

/-- Take one call into the open entry. -/
def take (emitter : ManifestEmitter) : EmitterCall → Except Fault ManifestEmitter
  | .beginEntity entity => emitter.beginEntity entity
  | .operation operation =>
      emitter.onCurrent fun open' => { open' with operations := open'.operations ++ [operation] }
  | .page page => emitter.onCurrent fun open' => { open' with pages := open'.pages ++ [page] }
  | .block block => emitter.onCurrent fun open' => addBlock open' block
  | .endEntity => emitter.endEntity

/-- Hand over the manifest. -/
def finish (emitter : ManifestEmitter) : Except Fault (List GeneratedFile × ManifestEmitter) :=
  match emitter.current with
  | some _ => .error (.emission (.finishInsideEntity name))
  | none =>
      .ok ([{ path := "manifest.json", content := emitter.manifest.text, kind := .json }], emitter)

instance : Emitter ManifestEmitter where
  name := name
  take := take
  blockText _ := Manifest.blockText
  finish := finish

end ManifestEmitter

end EntitySurface
