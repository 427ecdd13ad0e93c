import EntitySurface.Derivation.Arguments

/-!
# States, times, numbers and tasks

The operations that move one object forward: changing its state, planning its time, setting its
target date, renumbering it, and the tasks of its workflow.
-/

namespace EntitySurface.Derivation

/-- Changing the state of an object with a lifecycle. -/
def stateChange (entity : Entity) : List Contribution :=
  match (entity.firstOf? .lifecycle).map Property.kind with
  | some (.lifecycle category) =>
      [.operation (entity.guardedOperation ("ChangeState" ++ entity.pascalName)
        [entity.objectArgument, valueArgument "state" (.choice category false)]
        [entity.objectArgument] [.steer])]
  | _ => []

/-- Rescheduling an object with a time slot. -/
def rescheduling (entity : Entity) : List Contribution :=
  [.operation (entity.guardedOperation ("Reschedule" ++ entity.pascalName)
    [entity.objectArgument, valueArgument "start_time" .timestamp,
      valueArgument "end_time" .timestamp]
    [entity.objectArgument] [.schedule])]

/-- Previewing the plan, rescheduling along it, and insertion after a predecessor. -/
def planning (entity : Entity) : List Contribution :=
  let name := entity.pascalName
  [.operation (entity.guardedOperation ("PreviewPlan" ++ name) [entity.objectArgument]
      [entity.objectsArgument] [.read]),
   .operation (entity.guardedOperation ("RescheduleWithPlan" ++ name)
      [entity.objectArgument, valueArgument "start_time" .timestamp] [entity.objectsArgument]
      [.schedule]),
   .operation (entity.guardedOperation ("InsertAfter" ++ name)
      [{ name := "predecessor", kind := .object entity.key }, entity.objectArgument]
      [entity.objectArgument] [.schedule])]

/-- Setting the target date, which only makes sense beside an active lifecycle. -/
def targetDate (entity : Entity) : Except Fault (List Contribution) :=
  if entity.hasKind .lifecycle then
    .ok [.operation (entity.guardedOperation ("SetTargetDate" ++ entity.pascalName)
      [entity.objectArgument, valueArgument "target_date" .date] [entity.objectArgument]
      [.schedule])]
  else
    let property := match entity.firstOf? .targetDate with
      | some property => property.name
      | none => ""
    .error (.missingPrecondition entity.key property .activeLifecycle)

/-- Renumbering by hand, within the scope that was resolved for the numbering. -/
def renumbering (entity : Entity) : List Contribution :=
  match entity.firstOf? .numbered with
  | some numbered =>
      let scope := (numbered.extraArguments "renumber").map Argument.ofMethodArgument
      [.operation (entity.guardedOperation ("Renumber" ++ entity.pascalName)
        ([entity.objectArgument, valueArgument "nr" (.text 64)] ++ scope) [entity.objectArgument]
        [.steer])]
  | none => []

/-- The task cockpit and the reassignment of tasks. -/
def tasks (entity : Entity) : List Contribution :=
  let cockpit := entity.operation ("ShowCockpit" ++ entity.pascalName) [] [entity.objectsArgument]
    [.read]
  [.page (.forOperation cockpit), .operation cockpit,
   .operation (entity.guardedOperation ("ReassignTask" ++ entity.pascalName)
     [entity.objectArgument, valueArgument "assignee" (.text 64)] [entity.objectArgument]
     [.businessAdmin])]

end EntitySurface.Derivation
