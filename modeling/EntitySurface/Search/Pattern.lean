import EntitySurface.Text.Blank

/-!
# Search patterns

The text that a user enters is a prefix match in which `*` stands for any text. A query pattern
writes the wildcard as `%`, gives `_` a meaning of its own and escapes with a backslash.
-/

namespace EntitySurface.Search

/-- One character of the user's pattern as a query pattern. -/
def patternChar (c : Char) : List Char :=
  if c = '*' then ['%']
  else if c = '%' || c = '_' || c = '\\' then ['\\', c]
  else [c]

/-- The query pattern of trimmed input: it ends with a wildcard, be it the user's or an added
one. -/
def patternChars (input : List Char) : List Char :=
  input.flatMap patternChar ++ if input.getLast? == some '*' then [] else ['%']

/-- The query pattern of a user's text; blank input has none. -/
def prefixPattern? (input : String) : Option String :=
  match Text.trimChars input.toList with
  | [] => none
  | trimmed => some (String.ofList (patternChars trimmed))

end EntitySurface.Search
