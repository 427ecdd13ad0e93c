import EntitySurface.HookChain
import EntitySurface.Project

/-!
# Emitters

An emitter turns surfaces into files. It is driven by a sequence of calls: for each entity a call
that opens it, its operations, its pages, blocks of code, and a call that ends it; when all entities
are done, the emitter hands over its files. An emitter refuses calls that do not fit this order and
then stays as it was.
-/

namespace EntitySurface

/-- A block of code that belongs to the open entity. -/
inductive CodeBlock where
  | hookChain (chain : HookChain)
  | search (plan : SearchPlan)
  | actionGroups (groups : GroupSet)
  deriving DecidableEq

/-- The kind of the block, as recorded calls show it. -/
def CodeBlock.kind : CodeBlock → String
  | hookChain _ => "hook_chain"
  | search _ => "search"
  | actionGroups _ => "action_groups"

/-- A call to an emitter. -/
inductive EmitterCall where
  | beginEntity (entity : Entity)
  | operation (operation : Operation)
  | page (page : Page)
  | block (block : CodeBlock)
  | endEntity
  deriving DecidableEq

/-- Receivers of calls that hand over files in the end. -/
class Emitter (ε : Type) where
  name : String
  take : ε → EmitterCall → Except Fault ε
  /-- The text of a block as this emitter writes it. -/
  blockText : ε → CodeBlock → String
  finish : ε → Except Fault (List GeneratedFile × ε)

namespace Emitter

variable {ε : Type} [Emitter ε]

/-- Take calls in order, up to the first that is refused. -/
def takeAll (emitter : ε) : List EmitterCall → Except Fault ε
  | [] => .ok emitter
  | call :: rest =>
      match take emitter call with
      | .error fault => .error fault
      | .ok changed => takeAll changed rest

/-- The files of an emitter after a sequence of calls. -/
def run (emitter : ε) (calls : List EmitterCall) : Except Fault (List GeneratedFile) :=
  match takeAll emitter calls with
  | .error fault => .error fault
  | .ok final => (finish final).map Prod.fst

end Emitter

end EntitySurface
