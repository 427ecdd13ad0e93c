import EntitySurface.Json.Surfaces

/-!
# JSON forms of searches

Predicates and compiled searches, as they are shown to a caller.
-/

namespace EntitySurface

mutual

/-- A predicate as a record that carries its operator as a tag. -/
def Predicate.json : Predicate → Json
  | .like column pattern =>
      .withTag "op" "like" [("column", toJson column), ("pattern", toJson pattern)]
  | .equals column value => .withTag "op" "eq" [("column", toJson column), ("value", toJson value)]
  | .atLeast column value =>
      .withTag "op" "at_least" [("column", toJson column), ("value", toJson value)]
  | .atMost column value =>
      .withTag "op" "at_most" [("column", toJson column), ("value", toJson value)]
  | .between column from' to' =>
      .withTag "op" "between"
        [("column", toJson column), ("from", toJson from'), ("to", toJson to')]
  | .anyOf items => .withTag "op" "or" [("items", .array (Predicate.jsonOfEach items))]
  | .allOf items => .withTag "op" "and" [("items", .array (Predicate.jsonOfEach items))]
  | .raw text => .withTag "op" "raw" [("text", toJson text)]

/-- The forms of several predicates. -/
def Predicate.jsonOfEach : List Predicate → List Json
  | [] => []
  | item :: rest => Predicate.json item :: Predicate.jsonOfEach rest

end

/-- A compiled search with its columns and its text. -/
def CompiledSearch.json (search : CompiledSearch) : Json :=
  .object [
    ("predicate", (search.predicate.map Predicate.json).getD .null),
    ("columns", toJson (search.predicate.map Predicate.columns)),
    ("ordering", toJson search.ordering), ("text", toJson search.text)]

end EntitySurface
