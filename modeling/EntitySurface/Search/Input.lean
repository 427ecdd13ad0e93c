import EntitySurface.Text.Quoted

/-!
# Search input

What a user enters into one search widget.
-/

namespace EntitySurface

/-- The value entered into one widget. -/
inductive SearchInput where
  | text (value : Option String)
  | choices (codes : List String)
  | dateRange (from? to? : Option String)
  | exact (value : Option String)
  deriving DecidableEq

namespace SearchInput

/-- An optional text as messages show it. -/
def optionText : Option String → String
  | some value => "Some(" ++ Text.quoted value ++ ")"
  | none => "None"

/-- The input as messages show it. -/
def description : SearchInput → String
  | text value => "Text(" ++ optionText value ++ ")"
  | choices codes => "Choices([" ++ ", ".intercalate (codes.map Text.quoted) ++ "])"
  | dateRange from? to? =>
      "DateRange \x7b from: " ++ optionText from? ++ ", to: " ++ optionText to? ++ " \x7d"
  | exact value => "Exact(" ++ optionText value ++ ")"

end SearchInput

end EntitySurface
