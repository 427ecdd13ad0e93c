import EntitySurface.Json.Form
import EntitySurface.Validation.Report

/-!
# JSON forms of reports

Validation reports, and the words for the kinds of faults and findings.
-/

namespace EntitySurface

/-- The kind of a fault as one word. -/
def Fault.word : Fault → String
  | duplicateName _ _ => "DuplicateName"
  | invalidName _ _ => "InvalidName"
  | missingPrecondition _ _ _ => "MissingPrecondition"
  | subObjectConflict _ _ _ => "SubObjectConflict"
  | unresolvedBinding _ _ _ => "UnresolvedBinding"
  | ownershipViolation _ _ _ => "OwnershipViolation"
  | schemaFrozen _ => "SchemaFrozen"
  | cyclicCascade _ _ _ => "CyclicCascade"
  | invalidBusinessRule _ _ _ _ => "InvalidBusinessRule"
  | entityNotFound _ => "EntityNotFound"
  | propertyNotFound _ _ => "PropertyNotFound"
  | fieldNotFound _ _ => "FieldNotFound"
  | exclusiveFlags _ _ => "ExclusiveFlags"
  | derivationConflict _ _ => "DerivationConflict"
  | entityNotFinalized _ | schemaNotFinalized _ => "NotFinalized"
  | unknownHookTarget _ _ _ => "UnknownHookTarget"
  | unknownSearchElement _ _ => "UnknownSearchElement"
  | invalidSearchInput _ _ => "InvalidSearchInput"
  | emission _ => "Emission"
  | outputExists _ => "OutputExists"
  | unreadable _ => "FileRead"
  | unwritable _ => "FileWrite"
  | directoryNotCreated _ => "DirectoryCreate"
  | invalidConfig _ => "InvalidConfig"
  | validation _ => "Validation"
  | orphanSubObject _ => "Internal"

/-- The category as one word. -/
def FaultCategory.word : FaultCategory → String
  | composition => "composition"
  | derivation => "derivation"
  | hook => "hook"
  | fileSystem => "io"
  | other => "other"

/-- The message says nothing of the surroundings in which the program runs, such as its paths. -/
def Fault.isPortable : Fault → Bool
  | outputExists _ | unreadable _ | unwritable _ | directoryNotCreated _ => false
  | _ => true

/-- A fault with its kind, its category and, where it reads the same everywhere, its message. -/
def Fault.json (fault : Fault) : Json :=
  .object <| [("error", toJson fault.word), ("category", toJson fault.category.word)]
    ++ if fault.isPortable then [("message", toJson fault.message)] else []

/-- The code as one word. -/
def ErrorCode.word : ErrorCode → String
  | invalidEntityName => "InvalidEntityName"
  | duplicateEntityName => "DuplicateEntityName"
  | unresolvedBinding => "UnresolvedBinding"
  | exclusiveLinkRoles => "ExclusiveLinkRoles"
  | invalidScheduleDependency => "InvalidScheduleDependency"
  | invalidSameParent => "InvalidSameParent"
  | invalidStateRestriction => "InvalidStateRestriction"
  | unresolvedLoaderAlias => "UnresolvedLoaderAlias"
  | custom => "Custom"

/-- The code as one word. -/
def WarningCode.word : WarningCode → String
  | noDescription => "NoDescription"
  | noUniqueIdentity => "NoUniqueIdentity"
  | noSearchWidgets => "NoSearchWidgets"
  | aliasShadowsColumn => "AliasShadowsColumn"
  | custom => "Custom"

/-- An error with all its parts and the text that shows it. -/
def ErrorFinding.json (finding : ErrorFinding) : Json :=
  .object [
    ("code", toJson finding.code.word), ("message", toJson finding.message),
    ("path", toJson finding.path), ("suggestion", toJson finding.suggestion),
    ("text", toJson finding.text)]

/-- A warning with all its parts and the text that shows it. -/
def WarningFinding.json (finding : WarningFinding) : Json :=
  .object [
    ("code", toJson finding.code.word), ("message", toJson finding.message),
    ("path", toJson finding.path), ("text", toJson finding.text)]

/-- The members of a report. -/
def Report.members (report : Report) : List (String × Json) :=
  [("valid", toJson report.isValid), ("has_errors", toJson !report.errors.isEmpty),
   ("has_warnings", toJson !report.warnings.isEmpty),
   ("errors", .array (report.errors.map ErrorFinding.json)),
   ("warnings", .array (report.warnings.map WarningFinding.json)),
   ("result", match report.toFault? with
     | some fault => fault.json
     | none => toJson true)]

end EntitySurface
