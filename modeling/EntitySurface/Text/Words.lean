import EntitySurface.Text.Alphanumeric
import EntitySurface.Text.Case

/-!
# Words of a mixed-case name

A name is cut into words at every character that is neither a letter nor a number, and inside such
a piece wherever the case says so: after a lowercase letter that an uppercase letter follows, and
before the last letter of an uppercase run that a lowercase letter follows. Snake case and Pascal
case are two ways to join the words again.
-/

namespace EntitySurface.Text

/-- The case of the last cased character of the word being read. -/
inductive WordMode where
  | none
  | lower
  | upper
  deriving DecidableEq, Repr

/-- The mode after one more character; caseless characters keep it. -/
def WordMode.next (mode : WordMode) (c : Char) : WordMode :=
  if isLowercase c then .lower else if isUppercase c then .upper else mode

/-- The maximal pieces of letters and numbers, empty ones included. -/
def pieces : List Char → List (List Char)
  | [] => [[]]
  | c :: rest =>
      if isAlphanumeric c then
        match pieces rest with
        | [] => [[c]]
        | piece :: others => (c :: piece) :: others
      else [] :: pieces rest

/-- Cut one piece at its case boundaries; `current` holds the open word, last character first. -/
def cutPiece (mode : WordMode) (current : List Char) : List Char → List (List Char)
  | [] => []
  | [c] => [(c :: current).reverse]
  | c :: next :: rest =>
      let mode' := mode.next c
      if mode' = .lower && isUppercase next then
        (c :: current).reverse :: cutPiece .none [] (next :: rest)
      else if mode = .upper && isUppercase c && isLowercase next then
        current.reverse :: cutPiece .none [c] (next :: rest)
      else cutPiece mode' (c :: current) (next :: rest)

/-- The words of a name, in order. -/
def words (name : List Char) : List (List Char) :=
  (pieces name).flatMap (cutPiece .none [])

/-- Lowercase one word; a capital sigma is final exactly at its end. -/
def lowerWord : List Char → List Char
  | [] => []
  | [c] => if c = 'Σ' then ['ς'] else lowerChar c
  | c :: rest => lowerChar c ++ lowerWord rest

/-- One word with a capital first letter. -/
def capitalWord : List Char → List Char
  | [] => []
  | c :: rest => upperChar c ++ lowerWord rest

/-- `OrderLine` becomes `order_line`. -/
def snakeCase (name : String) : String :=
  String.ofList (['_'].intercalate ((words name.toList).map lowerWord))

/-- `order_line` becomes `OrderLine`. -/
def pascalCase (name : String) : String :=
  String.ofList ((words name.toList).flatMap capitalWord)

end EntitySurface.Text
