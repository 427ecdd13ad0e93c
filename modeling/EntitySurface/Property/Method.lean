import EntitySurface.FieldType

/-!
# Methods and hooks

A property declares data access methods. Other properties of the entity may hook into them, before
or after the method body.
-/

namespace EntitySurface

/-- A data access method of a property. -/
structure AccessMethod where
  name : String
  /-- Static methods do not act on an instance. -/
  isStatic : Bool := false
  /-- The method has a bulk variant. -/
  hasBulk : Bool := false
  deriving DecidableEq

/-- When a hook runs. -/
inductive HookPhase where
  /-- Before the body; preliminary hooks come before all others. -/
  | pre (preliminary : Bool)
  /-- After the body. -/
  | post
  deriving DecidableEq

/-- The hook runs before the body. -/
def HookPhase.isPre : HookPhase → Bool
  | pre _ => true
  | post => false

/-- The hook runs before all other hooks. -/
def HookPhase.isPreliminary : HookPhase → Bool
  | pre preliminary => preliminary
  | post => false

/-- An argument that a method gains from a sibling property. -/
structure MethodArgument where
  method : String
  name : String
  type : FieldType
  deriving DecidableEq

/-- Processing that a property adds around a method of the property `origin`. -/
structure MethodHook where
  declaring : String
  method : String
  origin : String
  phase : HookPhase
  /-- What the processing does, in a few words. -/
  label : String
  deriving DecidableEq

/-- The hook is woven around this method. -/
def MethodHook.targets (hook : MethodHook) (method origin : String) : Bool :=
  hook.method == method && hook.origin == origin

end EntitySurface
