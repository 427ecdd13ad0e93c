import EntitySurface.Emission.Emitter

/-!
# Recorded calls

An emitter that accepts every call, remembers it and produces no files.
-/

namespace EntitySurface

/-- A call as it is remembered. -/
inductive EmitterEvent where
  | beginEntity (entity : EntityKey)
  | operation (name : String)
  | page (name : String)
  | block (kind : String)
  | endEntity
  deriving DecidableEq

/-- What is remembered of a call. -/
def EmitterCall.event : EmitterCall → EmitterEvent
  | .beginEntity opened => .beginEntity opened.key
  | .operation registered => .operation registered.name
  | .page registered => .page registered.name
  | .block rendered => .block rendered.kind
  | .endEntity => .endEntity

/-- The calls received so far. -/
structure RecordingEmitter where
  events : List EmitterEvent := []
  deriving DecidableEq

namespace RecordingEmitter

/-- The operations in the order in which they were registered. -/
def operations (emitter : RecordingEmitter) : List String :=
  emitter.events.filterMap fun event =>
    match event with
    | .operation name => some name
    | _ => none

instance : Emitter RecordingEmitter where
  name := "recording"
  take emitter call := .ok { events := emitter.events ++ [call.event] }
  blockText _ _ := ""
  finish emitter := .ok ([], emitter)

end RecordingEmitter

end EntitySurface
