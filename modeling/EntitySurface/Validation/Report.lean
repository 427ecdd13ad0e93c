import EntitySurface.Fault

/-!
# Validation reports

What a validation found: errors, which forbid generation, and warnings, which do not. Reports of
several checks are put together in the order of the checks.
-/

namespace EntitySurface

/-- The kinds of validation error. -/
inductive ErrorCode where
  | invalidEntityName
  | duplicateEntityName
  | unresolvedBinding
  | exclusiveLinkRoles
  | invalidScheduleDependency
  | invalidSameParent
  | invalidStateRestriction
  | unresolvedLoaderAlias
  | custom
  deriving DecidableEq

/-- The kinds of validation warning. -/
inductive WarningCode where
  | noDescription
  | noUniqueIdentity
  | noSearchWidgets
  | aliasShadowsColumn
  | custom
  deriving DecidableEq

/-- An error, where it is, and what would mend it. -/
structure ErrorFinding where
  code : ErrorCode
  message : String
  path : Option String := none
  suggestion : Option String := none
  deriving DecidableEq

/-- A warning and where it is. -/
structure WarningFinding where
  code : WarningCode
  message : String
  path : Option String := none
  deriving DecidableEq

/-- A text after the path it belongs to. -/
def atPath (path : Option String) (text : String) : String :=
  match path with
  | some path => "[" ++ path ++ "] " ++ text
  | none => text

/-- The error as it is shown. -/
def ErrorFinding.text (finding : ErrorFinding) : String :=
  atPath finding.path finding.message

/-- The warning as it is shown. -/
def WarningFinding.text (finding : WarningFinding) : String :=
  atPath finding.path ("Warning: " ++ finding.message)

/-- The findings of one or more checks. -/
structure Report where
  errors : List ErrorFinding := []
  warnings : List WarningFinding := []
  deriving DecidableEq

namespace Report

/-- Validation passed. -/
def isValid (report : Report) : Bool :=
  report.errors.isEmpty

/-- The findings of one report, then those of another. -/
def merge (first second : Report) : Report :=
  { errors := first.errors ++ second.errors, warnings := first.warnings ++ second.warnings }

/-- The findings of several reports in order. -/
def mergeAll (reports : List Report) : Report :=
  { errors := reports.flatMap Report.errors, warnings := reports.flatMap Report.warnings }

/-- The errors as a fault, if there are any. -/
def toFault? (report : Report) : Option Fault :=
  if report.isValid then none else some (.validation (report.errors.map ErrorFinding.text))

end Report

end EntitySurface
