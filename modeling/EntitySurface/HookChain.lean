import EntitySurface.Entity

/-!
# Hook chains

The hooks woven around one data access method of an entity. Preliminary hooks run first, then the
other hooks before the body, then the body, then the hooks after it; within each group, hooks keep
the attachment order of the properties that declare them. In the bulk variant of a method every hook
works on a batch that is put together just before the hook is invoked.
-/

namespace EntitySurface

/-- One step of a woven method. -/
inductive HookStatement where
  /-- Put together the batch of a property's data. -/
  | materializeBatch (property : String)
  | invokeHook (property label : String) (phase : HookPhase) (batched : Bool)
  /-- The method itself. -/
  | methodBody (method origin : String) (bulk : Bool)
  deriving DecidableEq

/-- The step as it is shown. -/
def HookStatement.text : HookStatement → String
  | materializeBatch property => "materialize batch for " ++ property
  | invokeHook property label _ batched =>
      property ++ ": " ++ label ++ if batched then " (batch)" else ""
  | methodBody method origin bulk => origin ++ "." ++ method ++ if bulk then "[]" else ""

/-- The hooks around one method of one entity. -/
structure HookChain where
  entity : EntityKey
  method : String
  origin : String
  bulk : Bool
  preliminary : List MethodHook
  pre : List MethodHook
  post : List MethodHook
  deriving DecidableEq

namespace HookChain

/-- The hooks in the order in which they run. -/
def hooks (chain : HookChain) : List MethodHook :=
  chain.preliminary ++ chain.pre ++ chain.post

/-- No hook is woven around the method. -/
def isEmpty (chain : HookChain) : Bool :=
  chain.hooks.isEmpty

/-- The declaring properties in the order in which their hooks run. -/
def order (chain : HookChain) : List String :=
  chain.hooks.map MethodHook.declaring

/-- The steps that run one hook. -/
def invocation (bulk : Bool) (hook : MethodHook) : List HookStatement :=
  (if bulk then [.materializeBatch hook.declaring] else [])
    ++ [.invokeHook hook.declaring hook.label hook.phase bulk]

/-- The woven method, step by step. -/
def statements (chain : HookChain) : List HookStatement :=
  (chain.preliminary ++ chain.pre).flatMap (invocation chain.bulk)
    ++ .methodBody chain.method chain.origin chain.bulk
      :: chain.post.flatMap (invocation chain.bulk)

/-- The method and its variant, as `ORIGIN.method` with brackets for the bulk variant. -/
def title (chain : HookChain) : String :=
  chain.origin ++ "." ++ chain.method ++ if chain.bulk then "[]" else ""

end HookChain

namespace Entity

/-- The hooks of all active properties around a method, built-in before declared within each
property. -/
def hooksAround (entity : Entity) (method origin : String) : List MethodHook :=
  (entity.activeProperties.flatMap Property.hooks).filter fun hook => hook.targets method origin

/-- The hooks around a method in their groups. -/
def chainAround (entity : Entity) (method origin : String) (bulk : Bool) : HookChain :=
  let hooks := entity.hooksAround method origin
  { entity := entity.key, method, origin, bulk
    preliminary := hooks.filter fun hook => hook.phase == .pre true
    pre := hooks.filter fun hook => hook.phase == .pre false
    post := hooks.filter fun hook => hook.phase == .post }

/-- Weave the hooks around a method of an active property; the bulk variant has to exist. -/
def hookChain (entity : Entity) (method origin : String) (bulk : Bool) : Except Fault HookChain :=
  if !entity.finalized then .error (.entityNotFinalized entity.key)
  else
    let target := (entity.activeProperties.find? fun property => property.name == origin).bind
      fun property => property.kind.method? method
    if target.any fun found => !bulk || found.hasBulk then
      .ok (entity.chainAround method origin bulk)
    else .error (.unknownHookTarget entity.key method origin)

/-- The methods of the active properties with their variants, in attachment order: the single
variant, then the bulk variant if there is one. -/
def hookTargets (entity : Entity) : List (String × String × Bool) :=
  entity.activeProperties.flatMap fun property =>
    property.kind.methods.flatMap fun method =>
      (method.name, property.name, false)
        :: if method.hasBulk then [(method.name, property.name, true)] else []

/-- The chains of all methods of the active properties. -/
def hookChains (entity : Entity) : Except Fault (List HookChain) :=
  entity.hookTargets.mapM fun (method, origin, bulk) => entity.hookChain method origin bulk

end Entity

end EntitySurface
