/-!
# Plural forms

The plural of an English noun, by its ending alone: sibilants take `es`, a `y` after a consonant
becomes `ies`, and all else takes `s`.
-/

namespace EntitySurface.Text

/-- The plural of a word given from its last character on. -/
def pluralFromEnd : List Char → List Char
  | [] => []
  | 's' :: stem => "es".toList.reverse ++ 's' :: stem
  | 'x' :: stem => "es".toList.reverse ++ 'x' :: stem
  | 'h' :: 'c' :: stem => "es".toList.reverse ++ 'h' :: 'c' :: stem
  | 'h' :: 's' :: stem => "es".toList.reverse ++ 'h' :: 's' :: stem
  | 'y' :: stem =>
      if stem.head?.any (· ∈ ['a', 'e', 'i', 'o', 'u']) then 's' :: 'y' :: stem
      else "ies".toList.reverse ++ stem
  | stem => 's' :: stem

/-- The plural of a word; the empty word has none. -/
def plural (word : String) : String :=
  String.ofList (pluralFromEnd word.toList.reverse).reverse

end EntitySurface.Text
