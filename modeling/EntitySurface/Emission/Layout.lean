/-!
# Indented lines

The layout of emitted source text: lines at a level of indentation, blank lines without any.
-/

namespace EntitySurface

/-- How deep a line stands, and what one level looks like. -/
structure Layout where
  level : Nat := 0
  useSpaces : Bool := true
  spacesPerLevel : Nat := 4
  deriving DecidableEq

namespace Layout

/-- The text in front of a line. -/
def indent (layout : Layout) : String :=
  String.ofList <|
    if layout.useSpaces then List.replicate (layout.level * layout.spacesPerLevel) ' '
    else List.replicate layout.level '\t'

/-- The layout one level deeper. -/
def deeper (layout : Layout) : Layout :=
  { layout with level := layout.level + 1 }

/-- A line with its line break; an empty line is not indented. -/
def line (layout : Layout) (text : String) : String :=
  (if text.isEmpty then "" else layout.indent ++ text) ++ "\n"

/-- Several lines. -/
def lines (layout : Layout) (texts : List String) : String :=
  "".intercalate (texts.map layout.line)

end Layout

end EntitySurface
