import EntitySurface.Json.Number
import EntitySurface.Text.Hexadecimal

/-!
# Reading JSON

A recursive-descent reader for complete JSON texts. The reader of values is bounded by a number of
steps: a value takes at most two steps per character, so that twice the length of the text is
always enough. What is well-formed is read, even where it has no value.
-/

namespace EntitySurface.Json

/-- Blanks between tokens. -/
def isSpace (c : Char) : Bool :=
  c == ' ' || c == '\n' || c == '\t' || c == '\r'

/-- The text after leading white space. -/
def skipSpaces (text : List Char) : List Char :=
  text.dropWhile isSpace

/-- Read the four digits of a unicode escape. -/
def readUnit : List Char → Option (Nat × List Char)
  | a :: b :: c :: d :: rest => do
      let a ← Text.hexDigit? a
      let b ← Text.hexDigit? b
      let c ← Text.hexDigit? c
      let d ← Text.hexDigit? d
      some (((a * 16 + b) * 16 + c) * 16 + d, rest)
  | _ => none

/-- The character that a one-letter escape stands for. -/
def simpleEscape? : Char → Option Char
  | '"' => some '"'
  | '\\' => some '\\'
  | '/' => some '/'
  | 'b' => some '\x08'
  | 'f' => some '\x0c'
  | 'n' => some '\n'
  | 'r' => some '\r'
  | 't' => some '\t'
  | _ => none

/-- Read the rest of a string after its opening quote, as the code points that its characters and
escapes stand for; an escape may stand for half of a surrogate pair. `read` holds the code points so
far, last first, and `steps` bounds their number. -/
def readCodes (read : List Nat) : (steps : Nat) → List Char → Option (List Nat × List Char)
  | 0, _ => none
  | _, [] => none
  | _ + 1, '"' :: rest => some (read.reverse, rest)
  | steps + 1, '\\' :: 'u' :: rest => do
      let (unit, rest) ← readUnit rest
      readCodes (unit :: read) steps rest
  | steps + 1, '\\' :: escape :: rest => do
      let c ← simpleEscape? escape
      readCodes (c.toNat :: read) steps rest
  | steps + 1, c :: rest => if c.toNat < 32 then none else readCodes (c.toNat :: read) steps rest

/-- The first half of a surrogate pair. -/
def isHighSurrogate (code : Nat) : Bool :=
  0xD800 ≤ code && code < 0xDC00

/-- The second half of a surrogate pair. -/
def isLowSurrogate (code : Nat) : Bool :=
  0xDC00 ≤ code && code < 0xE000

/-- The characters of a list of code points in which surrogates come in pairs only. `read` holds the
characters so far, last first. -/
def joinSurrogates (read : List Char) : List Nat → Option (List Char)
  | [] => some read.reverse
  | [code] =>
      if isHighSurrogate code || isLowSurrogate code then none
      else some (Char.ofNat code :: read).reverse
  | code :: next :: rest =>
      if isHighSurrogate code then
        if isLowSurrogate next then
          joinSurrogates
            (Char.ofNat (0x10000 + (code - 0xD800) * 0x400 + (next - 0xDC00)) :: read) rest
        else none
      else if isLowSurrogate code then none
      else joinSurrogates (Char.ofNat code :: read) (next :: rest)

/-- Read the rest of a string after its opening quote. A string with half of a surrogate pair has no
value. -/
def readString (steps : Nat) (text : List Char) : Option (Option String × List Char) :=
  (readCodes [] steps text).map fun (codes, rest) =>
    ((joinSurrogates [] codes).map String.ofList, rest)

/-- How deep arrays and objects may be nested to have a value. -/
def maxDepth : Nat := 127

/-- The object of the members that were read, if all their names have a value. -/
def ofMembers (members : List (Option String × Json)) : Json :=
  match members.mapM fun (name, value) => name.map fun name => (name, value) with
  | some members => object members
  | none => unusable

mutual

/-- Read a value inside of `depth` arrays and objects, in at most `steps` nested steps. -/
def readValue (depth : Nat) : (steps : Nat) → List Char → Option (Json × List Char)
  | 0, _ => none
  | steps + 1, text =>
      match skipSpaces text with
      | 'n' :: 'u' :: 'l' :: 'l' :: rest => some (null, rest)
      | 't' :: 'r' :: 'u' :: 'e' :: rest => some (bool true, rest)
      | 'f' :: 'a' :: 'l' :: 's' :: 'e' :: rest => some (bool false, rest)
      | '"' :: rest => (readString steps rest).map fun (value, rest) =>
          (value.elim unusable string, rest)
      | '[' :: rest =>
          match skipSpaces rest with
          | ']' :: rest => some (if depth < maxDepth then array [] else unusable, rest)
          | _ => (readItems (depth + 1) steps rest).map fun (items, rest) =>
              (if depth < maxDepth then array items else unusable, rest)
      | '\x7b' :: rest =>
          match skipSpaces rest with
          | '\x7d' :: rest => some (if depth < maxDepth then object [] else unusable, rest)
          | _ => (readMembers (depth + 1) steps rest).map fun (members, rest) =>
              (if depth < maxDepth then ofMembers members else unusable, rest)
      | rest => readNumber rest

/-- Read the items of an array up to its end. -/
def readItems (depth : Nat) : (steps : Nat) → List Char → Option (List Json × List Char)
  | 0, _ => none
  | steps + 1, text =>
      match readValue depth steps text with
      | none => none
      | some (item, rest) =>
          match skipSpaces rest with
          | ',' :: rest =>
              (readItems depth steps rest).map fun (items, rest) => (item :: items, rest)
          | ']' :: rest => some ([item], rest)
          | _ => none

/-- Read the members of an object up to its end. -/
def readMembers (depth : Nat) :
    (steps : Nat) → List Char → Option (List (Option String × Json) × List Char)
  | 0, _ => none
  | steps + 1, text =>
      match skipSpaces text with
      | '"' :: rest =>
          match readString steps rest with
          | none => none
          | some (name, rest) =>
              match skipSpaces rest with
              | ':' :: rest =>
                  match readValue depth steps rest with
                  | none => none
                  | some (value, rest) =>
                      match skipSpaces rest with
                      | ',' :: rest =>
                          (readMembers depth steps rest).map fun (members, rest) =>
                            ((name, value) :: members, rest)
                      | '\x7d' :: rest => some ([(name, value)], rest)
                      | _ => none
              | _ => none
      | _ => none

end

/-- Read a complete text; nothing but blanks may follow the value. -/
def parse? (text : String) : Option Json :=
  let chars := text.toList
  match readValue 0 (2 * chars.length + 2) chars with
  | some (json, rest) => if (skipSpaces rest).isEmpty then some json else none
  | none => none

end EntitySurface.Json
