import EntitySurface.Project

/-!
# The summary of a generation

A box of counts for the reader of a terminal. Sizes are shown in bytes, or with one decimal in units
of 1024 bytes or of 1024 times 1024 bytes; a half is rounded to the even neighbour.
-/

namespace EntitySurface

/-- The counts of a generated project. -/
structure Summary where
  schema : String
  entities : Nat
  operations : Nat
  pages : Nat
  totalFiles : Nat
  rustFiles : Nat
  jsonFiles : Nat
  otherFiles : Nat
  warnings : Nat
  totalBytes : Nat
  deriving DecidableEq

/-- The summary of a project. -/
def Project.summary (project : Project) : Summary :=
  let rustFiles := (project.filesOfKind .rust).length
  let jsonFiles := (project.filesOfKind .json).length
  { schema := project.name
    entities := project.surfaces.length
    operations := project.operationCount
    pages := project.pageCount
    totalFiles := project.files.length
    rustFiles, jsonFiles
    otherFiles := project.files.length - rustFiles - jsonFiles
    warnings := project.warnings.length
    totalBytes := project.totalBytes }

namespace Summary

/-- A quotient rounded to the nearest whole number, a half to the even neighbour. -/
def roundHalfEven (numerator denominator : Nat) : Nat :=
  let quotient := numerator / denominator
  let rest := 2 * (numerator % denominator)
  if rest < denominator || (rest == denominator && quotient % 2 == 0) then quotient
  else quotient + 1

/-- A size in a unit, with one decimal. -/
def inUnit (bytes unit : Nat) : String :=
  let tenths := roundHalfEven (10 * bytes) unit
  toString (tenths / 10) ++ "." ++ toString (tenths % 10)

/-- A size as it is shown. -/
def sizeText (bytes : Nat) : String :=
  if bytes < 1024 then toString bytes ++ " B"
  else if bytes < 1024 * 1024 then inUnit bytes 1024 ++ " KB"
  else inUnit bytes (1024 * 1024) ++ " MB"

/-- A text filled up with blanks to a width; a longer text stays whole. -/
def padTo (width : Nat) (text : String) : String :=
  text ++ String.ofList (List.replicate (width - text.length) ' ')

/-- One row of the box. -/
def row (label value : String) : String :=
  "║  " ++ padTo 13 label ++ padTo 35 value ++ "║\n"

/-- The box. -/
def text (summary : Summary) : String :=
  let bar := "══════════════════════════════════════════════════"
  "╔" ++ bar ++ "╗\n"
    ++ "║         Generation Complete                      ║\n"
    ++ "╠" ++ bar ++ "╣\n"
    ++ row "Schema:" summary.schema
    ++ row "Entities:" (toString summary.entities)
    ++ row "Operations:" (toString summary.operations)
    ++ row "Pages:" (toString summary.pages)
    ++ row "Total Files:" (toString summary.totalFiles)
    ++ row "  Rust:" (toString summary.rustFiles)
    ++ row "  JSON:" (toString summary.jsonFiles)
    ++ row "  Other:" (toString summary.otherFiles)
    ++ row "Warnings:" (toString summary.warnings)
    ++ row "Total Size:" (sizeText summary.totalBytes)
    ++ "╚" ++ bar ++ "╝\n"

end Summary

end EntitySurface
