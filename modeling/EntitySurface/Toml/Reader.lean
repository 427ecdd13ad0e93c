import EntitySurface.Toml.Moment
import EntitySurface.Toml.Number

/-!
# Reading TOML

A reader of documents made of values and tables. Arrays of tables, which no configuration holds, are
refused like any other malformed text. The readers that follow nested or escaped text are bounded by
a number of steps; the length of the text is always enough.
-/

namespace EntitySurface.Toml

/-! ## Blanks, comments and line ends -/

/-- The character separates parts of a line. -/
def isBlank (c : Char) : Bool :=
  c == ' ' || c == '\t'

/-- The text after leading blanks. -/
def skipBlanks (text : List Char) : List Char :=
  text.dropWhile isBlank

/-- A character that may stand for itself in a comment or a string: no control character but the
tab. -/
def isPlain (c : Char) : Bool :=
  c == '\t' || (32 ≤ c.toNat && c.toNat != 127)

/-- The text after a line break. -/
def readBreak? : List Char → Option (List Char)
  | '\n' :: rest => some rest
  | '\r' :: '\n' :: rest => some rest
  | _ => none

/-- The text after a comment, if one starts here. -/
def skipComment : List Char → List Char
  | '#' :: rest => rest.dropWhile isPlain
  | rest => rest

/-- The text after the end of a line, before which blanks and a comment may stand. -/
def readLineEnd? (text : List Char) : Option (List Char) :=
  match skipComment (skipBlanks text) with
  | [] => some []
  | rest => readBreak? rest

/-- Skip blanks and line breaks. -/
def skipBlankLines : List Char → List Char
  | '\r' :: '\n' :: rest => skipBlankLines rest
  | c :: rest => if isBlank c || c == '\n' then skipBlankLines rest else c :: rest
  | [] => []

/-- Skip blanks, line breaks and comments; a comment lasts until a line break. -/
def skipLines : (steps : Nat) → List Char → Option (List Char)
  | 0, _ => none
  | steps + 1, text =>
      match skipBlankLines text with
      | '#' :: rest => (readBreak? (skipComment ('#' :: rest))).bind (skipLines steps)
      | rest => some rest

/-! ## Strings -/

/-- Read a number of hexadecimal digits. -/
def readHex? (value : Nat) : (digits : Nat) → List Char → Option (Nat × List Char)
  | 0, rest => some (value, rest)
  | _ + 1, [] => none
  | digits + 1, c :: rest =>
      match Text.hexDigit? c with
      | some digit => readHex? (value * 16 + digit) digits rest
      | none => none

/-- Read the code of a character. -/
def readCode? (digits : Nat) (text : List Char) : Option (Char × List Char) :=
  match readHex? 0 digits text with
  | some (code, rest) => if code.isValidChar then some (Char.ofNat code, rest) else none
  | none => none

/-- Read the rest of an escape. -/
def readEscape? : List Char → Option (Char × List Char)
  | 'b' :: rest => some ('\x08', rest)
  | 't' :: rest => some ('\t', rest)
  | 'n' :: rest => some ('\n', rest)
  | 'f' :: rest => some ('\x0c', rest)
  | 'r' :: rest => some ('\r', rest)
  | '"' :: rest => some ('"', rest)
  | '\\' :: rest => some ('\\', rest)
  | 'u' :: rest => readCode? 4 rest
  | 'U' :: rest => readCode? 8 rest
  | _ => none

/-- Read the rest of a string in double quotes; `read` holds the characters so far, last first. -/
def readEscaped? (read : List Char) : (steps : Nat) → List Char → Option (String × List Char)
  | 0, _ => none
  | _, [] => none
  | steps + 1, c :: rest =>
      if c == '"' then some (String.ofList read.reverse, rest)
      else if c == '\\' then
        match readEscape? rest with
        | some (c, rest) => readEscaped? (c :: read) steps rest
        | none => none
      else if isPlain c then readEscaped? (c :: read) steps rest
      else none

/-- Read the rest of a string in single quotes. -/
def readLiteral? (read : List Char) : List Char → Option (String × List Char)
  | [] => none
  | '\x27' :: rest => some (String.ofList read.reverse, rest)
  | c :: rest => if isPlain c then readLiteral? (c :: read) rest else none

/-- End a string at three quotes; up to two more quotes still belong to it. -/
def endBlock (quote : Char) (read rest : List Char) : String × List Char :=
  let quotes := (rest.take 2).takeWhile (· == quote)
  (String.ofList (quotes ++ read).reverse, rest.drop quotes.length)

/-- The text after a backslash that ends its line. -/
def readContinuation? (text : List Char) : Option (List Char) :=
  (readBreak? (skipBlanks text)).map skipBlankLines

/-- Read the rest of a string in three double quotes. -/
def readEscapedBlock? (read : List Char) : (steps : Nat) → List Char → Option (String × List Char)
  | 0, _ => none
  | _, [] => none
  | _ + 1, '"' :: '"' :: '"' :: rest => some (endBlock '"' read rest)
  | steps + 1, '\\' :: rest =>
      match readContinuation? rest, readEscape? rest with
      | some rest, _ => readEscapedBlock? read steps rest
      | none, some (c, rest) => readEscapedBlock? (c :: read) steps rest
      | none, none => none
  | steps + 1, c :: rest =>
      match readBreak? (c :: rest) with
      | some rest => readEscapedBlock? ('\n' :: read) steps rest
      | none => if isPlain c then readEscapedBlock? (c :: read) steps rest else none

/-- Read the rest of a string in three single quotes. -/
def readLiteralBlock? (read : List Char) : (steps : Nat) → List Char → Option (String × List Char)
  | 0, _ => none
  | _, [] => none
  | _ + 1, '\x27' :: '\x27' :: '\x27' :: rest => some (endBlock '\x27' read rest)
  | steps + 1, c :: rest =>
      match readBreak? (c :: rest) with
      | some rest => readLiteralBlock? ('\n' :: read) steps rest
      | none => if isPlain c then readLiteralBlock? (c :: read) steps rest else none

/-- A line break right after the opening quotes does not count. -/
def skipFirstBreak (text : List Char) : List Char :=
  (readBreak? text).getD text

/-- Read a string with its quotes. -/
def readString? (text : List Char) : Option (String × List Char) :=
  match text with
  | '"' :: '"' :: '"' :: rest => readEscapedBlock? [] text.length (skipFirstBreak rest)
  | '"' :: rest => readEscaped? [] text.length rest
  | '\x27' :: '\x27' :: '\x27' :: rest => readLiteralBlock? [] text.length (skipFirstBreak rest)
  | '\x27' :: rest => readLiteral? [] rest
  | _ => none

/-! ## Keys -/

/-- A character of a key without quotes. -/
def isKeyChar (c : Char) : Bool :=
  c.isAlphanum || c == '-' || c == '_'

/-- Read one name of a key. -/
def readName? (text : List Char) : Option (String × List Char) :=
  match text with
  | '"' :: rest => readEscaped? [] text.length rest
  | '\x27' :: rest => readLiteral? [] rest
  | _ =>
      match text.takeWhile isKeyChar with
      | [] => none
      | name => some (String.ofList name, text.dropWhile isKeyChar)

/-- How deep arrays and tables in braces may be nested, and how many names a key may have. -/
def maxDepth : Nat := 79

/-- Read the names of a dotted key with the blanks around them: those before the last one, and the
last one; `names` bounds their number. -/
def readNames? : (names : Nat) → List Char → Option ((List String × String) × List Char)
  | 0, _ => none
  | names + 1, text =>
      match readName? (skipBlanks text) with
      | none => none
      | some (name, rest) =>
          match skipBlanks rest with
          | '.' :: rest =>
              (readNames? names rest).map fun ((before, last), rest) =>
                ((name :: before, last), rest)
          | rest => some (([], name), rest)

/-- Read a dotted key. -/
def readKey? (text : List Char) : Option ((List String × String) × List Char) :=
  readNames? maxDepth text

/-! ## Values -/

mutual

/-- Read a value inside of `depth` arrays and tables in braces. -/
def readValue? (depth : Nat) : (steps : Nat) → List Char → Option (Toml × List Char)
  | 0, _ => none
  | steps + 1, text =>
      match text with
      | 't' :: 'r' :: 'u' :: 'e' :: rest => some (boolean true, rest)
      | 'f' :: 'a' :: 'l' :: 's' :: 'e' :: rest => some (boolean false, rest)
      | '[' :: rest =>
          if depth < maxDepth then
            (readItems? (depth + 1) steps rest).map fun (items, rest) => (array items, rest)
          else none
      | '\x7b' :: rest =>
          if depth < maxDepth then
            match skipBlanks rest with
            | '\x7d' :: rest => some (table .inline [], rest)
            | rest =>
                (readEntries? (depth + 1) steps [] rest).map fun (entries, rest) =>
                  (table .inline entries, rest)
          else none
      | text =>
          (readString? text).map (fun (value, rest) => (string value, rest))
            <|> (readMoment? text).map (fun (text, rest) => (moment text, rest))
            <|> readNumber? text

/-- Read the items of an array up to its end; a comma may follow the last one. -/
def readItems? (depth : Nat) : (steps : Nat) → List Char → Option (List Toml × List Char)
  | 0, _ => none
  | steps + 1, text =>
      match skipLines text.length.succ text with
      | none => none
      | some (']' :: rest) => some ([], rest)
      | some rest =>
          match readValue? depth steps rest with
          | none => none
          | some (item, rest) =>
              match skipLines rest.length.succ rest with
              | some (',' :: rest) =>
                  (readItems? depth steps rest).map fun (items, rest) => (item :: items, rest)
              | some (']' :: rest) => some ([item], rest)
              | _ => none

/-- Read the entries of a table in braces up to its end; `entries` holds those before. -/
def readEntries? (depth : Nat) : (steps : Nat) → Entries → List Char → Option (Entries × List Char)
  | 0, _, _ => none
  | steps + 1, entries, text =>
      match readKey? text with
      | some ((names, last), '=' :: rest) =>
          match readValue? depth steps (skipBlanks rest) with
          | none => none
          | some (value, rest) =>
              match entries.set last value names, skipBlanks rest with
              | some entries, ',' :: rest => readEntries? depth steps entries rest
              | some entries, '\x7d' :: rest => some (entries, rest)
              | _, _ => none
      | _ => none

end

/-! ## Documents -/

/-- Read a header after its opening bracket. -/
def readHeader? (text : List Char) : Option ((List String × String) × List Char) :=
  match readKey? text with
  | some (path, ']' :: rest) => (readLineEnd? rest).map fun rest => (path, rest)
  | _ => none

/-- Read a key with its value, up to the end of the line. -/
def readSetting? (text : List Char) : Option ((List String × String) × Toml × List Char) :=
  match readKey? text with
  | some (key, '=' :: rest) =>
      match readValue? 0 text.length.succ (skipBlanks rest) with
      | some (value, rest) => (readLineEnd? rest).map fun rest => (key, value, rest)
      | none => none
  | _ => none

/-- Read line by line; `path` leads to the table that the last header opened. -/
def readLines? (path : List String) (entries : Entries) :
    (steps : Nat) → List Char → Option Entries
  | 0, _ => none
  | steps + 1, text =>
      match skipBlanks text with
      | [] => some entries
      | '#' :: rest => (readLineEnd? ('#' :: rest)).bind (readLines? path entries steps)
      | '\n' :: rest => readLines? path entries steps rest
      | '\r' :: rest => (readBreak? ('\r' :: rest)).bind (readLines? path entries steps)
      | '[' :: rest =>
          match readHeader? rest with
          | none => none
          | some ((names, last), rest) =>
              (entries.openTable last names).bind fun entries =>
                readLines? (names ++ [last]) entries steps rest
      | rest =>
          match readSetting? rest with
          | none => none
          | some ((names, last), value, rest) =>
              (entries.modifyAt (Entries.set last value names) path).bind fun entries =>
                readLines? path entries steps rest

/-- Read a document; a byte order mark may stand in front. -/
def parse? (text : String) : Option Toml :=
  let chars := match text.toList with
    | '\uFEFF' :: rest => rest
    | chars => chars
  (readLines? [] [] chars.length.succ chars).map (table .header)

end EntitySurface.Toml
