import EntitySurface.Json.Basic

/-!
# Writing JSON

Two layouts: the compact one on a single line without blanks, and the indented one with two blanks
per level. Empty arrays and objects take no line of their own. Strings escape the quote, the
backslash and the control characters below U+0020 and nothing else.
-/

namespace EntitySurface.Json

/-- A hexadecimal digit in lowercase. -/
def hexDigit (n : Nat) : Char :=
  Nat.digitChar n

/-- One character of a string literal. -/
def escapeChar (c : Char) : List Char :=
  if c = '"' then ['\\', '"']
  else if c = '\\' then ['\\', '\\']
  else if c = '\x08' then ['\\', 'b']
  else if c = '\x0c' then ['\\', 'f']
  else if c = '\n' then ['\\', 'n']
  else if c = '\r' then ['\\', 'r']
  else if c = '\t' then ['\\', 't']
  else if c.toNat < 32 then
    ['\\', 'u', '0', '0', hexDigit (c.toNat / 16), hexDigit (c.toNat % 16)]
  else [c]

/-- A string literal. -/
def stringLiteral (text : String) : List Char :=
  '"' :: text.toList.flatMap escapeChar ++ ['"']

/-- The literal of a value that holds no other values; null stands for what has no value. -/
def leafLiteral : Json → List Char
  | null | unusable => ['n', 'u', 'l', 'l']
  | bool true => ['t', 'r', 'u', 'e']
  | bool false => ['f', 'a', 'l', 's', 'e']
  | natural value => Nat.toDigits 10 value
  | numeral literal => literal.toList
  | string value => stringLiteral value
  | array _ => ['[', ']']
  | object _ => ['\x7b', '\x7d']

mutual

/-- The compact layout. -/
def compactChars : Json → List Char
  | array items => '[' :: compactItems items ++ [']']
  | object members => '\x7b' :: compactMembers members ++ ['\x7d']
  | leaf => leafLiteral leaf

/-- Items between commas. -/
def compactItems : List Json → List Char
  | [] => []
  | [item] => compactChars item
  | item :: rest => compactChars item ++ ',' :: compactItems rest

/-- Members between commas. -/
def compactMembers : List (String × Json) → List Char
  | [] => []
  | [(name, value)] => stringLiteral name ++ ':' :: compactChars value
  | (name, value) :: rest =>
      stringLiteral name ++ ':' :: compactChars value ++ ',' :: compactMembers rest

end

/-- A line break and the indentation of a level. -/
def newline (level : Nat) : List Char :=
  '\n' :: List.replicate (2 * level) ' '

mutual

/-- The indented layout of a value that stands at the given level. -/
def prettyChars (level : Nat) : Json → List Char
  | array [] => ['[', ']']
  | array (item :: rest) =>
      '[' :: prettyItems (level + 1) (item :: rest) ++ newline level ++ [']']
  | object [] => ['\x7b', '\x7d']
  | object (member :: rest) =>
      '\x7b' :: prettyMembers (level + 1) (member :: rest) ++ newline level ++ ['\x7d']
  | leaf => leafLiteral leaf

/-- Items on lines of their own. -/
def prettyItems (level : Nat) : List Json → List Char
  | [] => []
  | [item] => newline level ++ prettyChars level item
  | item :: rest => newline level ++ prettyChars level item ++ ',' :: prettyItems level rest

/-- Members on lines of their own. -/
def prettyMembers (level : Nat) : List (String × Json) → List Char
  | [] => []
  | [(name, value)] =>
      newline level ++ stringLiteral name ++ ':' :: ' ' :: prettyChars level value
  | (name, value) :: rest =>
      newline level ++ stringLiteral name ++ ':' :: ' ' :: prettyChars level value
        ++ ',' :: prettyMembers level rest

end

/-- The text of a value on one line. -/
def compact (json : Json) : String :=
  String.ofList (compactChars json)

/-- The indented text of a value, without a final line break. -/
def pretty (json : Json) : String :=
  String.ofList (prettyChars 0 json)

end EntitySurface.Json
