import EntitySurface.Operation
import EntitySurface.Search.Plan

/-!
# The surface of an entity

The surface collects what is derived for one entity: operations, pages, the action groups that the
operations joined, menu entries and the search plan. An operation or page that is registered twice
in the same form is kept once; a second form under a taken name is a conflict.
-/

namespace EntitySurface

/-- Everything derived for one entity. -/
structure Surface where
  entity : EntityKey
  operations : List Operation
  pages : List Page
  groups : GroupSet
  menuEntries : List MenuEntry
  searchPlan : Option SearchPlan
  deriving DecidableEq

/-- One thing that a derivation rule adds to a surface. -/
inductive Contribution where
  | operation (operation : Operation)
  | page (page : Page)
  | menuEntry (entry : MenuEntry)
  | searchPlan (plan : SearchPlan)
  deriving DecidableEq

namespace Surface

/-- The surface of an entity before anything is derived. -/
def empty (entity : EntityKey) : Surface :=
  { entity, operations := [], pages := [], groups := .forEntity entity, menuEntries := []
    searchPlan := none }

/-- The operation of a name. -/
def operation? (surface : Surface) (name : String) : Option Operation :=
  surface.operations.find? fun operation => operation.name == name

/-- The page of a name. -/
def page? (surface : Surface) (name : String) : Option Page :=
  surface.pages.find? fun page => page.name == name

/-- Register an operation and let it join its groups; `false` when the same operation is already
there. -/
def addOperation (surface : Surface) (operation : Operation) : Except Fault (Bool × Surface) :=
  match surface.operation? operation.name with
  | some existing =>
      if existing = operation then .ok (false, surface)
      else .error (.derivationConflict surface.entity operation.name)
  | none =>
      .ok (true, { surface with
        operations := surface.operations ++ [operation]
        groups := operation.groups.foldl (fun groups kind => groups.register kind operation.name)
          surface.groups })

/-- Register a page; `false` when the same page is already there. -/
def addPage (surface : Surface) (page : Page) : Except Fault (Bool × Surface) :=
  match surface.page? page.name with
  | some existing =>
      if existing = page then .ok (false, surface)
      else .error (.derivationConflict surface.entity page.name)
  | none => .ok (true, { surface with pages := surface.pages ++ [page] })

/-- Add a menu entry unless it is already there. -/
def addMenuEntry (surface : Surface) (entry : MenuEntry) : Surface :=
  if surface.menuEntries.contains entry then surface
  else { surface with menuEntries := surface.menuEntries ++ [entry] }

/-- Take in one contribution; `false` when it was already there. -/
def absorb (surface : Surface) : Contribution → Except Fault (Bool × Surface)
  | .operation operation => surface.addOperation operation
  | .page page => surface.addPage page
  | .menuEntry entry =>
      .ok (!surface.menuEntries.contains entry, surface.addMenuEntry entry)
  | .searchPlan plan => .ok (true, { surface with searchPlan := some plan })

/-- Take in contributions in order, up to the first conflict. -/
def absorbAll (surface : Surface) : List Contribution → Except Fault Surface
  | [] => .ok surface
  | contribution :: rest =>
      match surface.absorb contribution with
      | .error fault => .error fault
      | .ok (_, changed) => changed.absorbAll rest

end Surface

end EntitySurface
