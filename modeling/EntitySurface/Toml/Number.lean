import EntitySurface.Number.Binary64
import EntitySurface.Text.Hexadecimal
import EntitySurface.Toml.Basic

/-!
# Reading TOML numbers

Integers of 64 bits, decimal or in base 16, 8 or 2, and floating-point numbers. Single underscores
may stand between digits.
-/

namespace EntitySurface.Toml

/-- The digits at the front of a text, between which single underscores may stand, and what follows
them. -/
def takeGrouped (isDigit : Char → Bool) : List Char → List Char × List Char
  | '_' :: c :: rest =>
      if isDigit c then
        let (digits, rest) := takeGrouped isDigit rest
        (c :: digits, rest)
      else ([], '_' :: c :: rest)
  | c :: rest =>
      if isDigit c then
        let (digits, rest) := takeGrouped isDigit rest
        (c :: digits, rest)
      else ([], c :: rest)
  | [] => ([], [])

/-- Read at least one digit. -/
def readGrouped? (isDigit : Char → Bool) : List Char → Option (List Char × List Char)
  | [] => none
  | c :: rest => if isDigit c then some (takeGrouped isDigit (c :: rest)) else none

/-- Read a decimal number without a sign: a zero, or digits that do not start with one. -/
def readUnsigned? : List Char → Option (List Char × List Char)
  | '0' :: rest => some (['0'], rest)
  | text => readGrouped? Char.isDigit text

/-- A sign at the front of a text, if there is one. -/
def takeSign : List Char → List Char × List Char
  | '+' :: rest => (['+'], rest)
  | '-' :: rest => (['-'], rest)
  | text => ([], text)

/-- Read the digits of an integer of a given base, which is at most 16. -/
def readBased? (base : Nat) (text : List Char) : Option (Toml × List Char) := do
  let (digits, rest) ← readGrouped? (fun c => (Text.hexDigit? c).any (· < base)) text
  let value := digits.foldl (fun value c => value * base + (Text.hexDigit? c).getD 0) 0
  if value < 0x8000000000000000 then some (integer value, rest) else none

/-- Read an integer. -/
def readInteger? (text : List Char) : Option (Toml × List Char) :=
  match text with
  | '0' :: 'x' :: rest => readBased? 16 rest
  | '0' :: 'o' :: rest => readBased? 8 rest
  | '0' :: 'b' :: rest => readBased? 2 rest
  | _ => do
      let (sign, rest) := takeSign text
      let (digits, rest) ← readUnsigned? rest
      let size : Int := Decimal.natural digits
      let value := if sign == ['-'] then -size else size
      if -0x8000000000000000 ≤ value && value < 0x8000000000000000 then some (integer value, rest)
      else none

/-- The digits of a fraction, if there is one. -/
def takeFraction (text : List Char) : List Char × List Char :=
  match text with
  | '.' :: rest => (readGrouped? Char.isDigit rest).getD ([], text)
  | _ => ([], text)

/-- The sign and the digits of an exponent, if there is one. -/
def takeExponent (text : List Char) : (List Char × List Char) × List Char :=
  match text with
  | e :: rest =>
      if e == 'e' || e == 'E' then
        let (sign, rest) := takeSign rest
        match readGrouped? Char.isDigit rest with
        | some (digits, rest) => ((sign, digits), rest)
        | none => (([], []), text)
      else (([], []), text)
  | [] => (([], []), [])

/-- Read a floating-point number in digits, with a fraction or an exponent. A positive number must
not come out as infinite. -/
def readDecimal? (text : List Char) : Option (Toml × List Char) := do
  let (sign, rest) := takeSign text
  let (whole, rest) ← readUnsigned? rest
  let (fraction, rest) := takeFraction rest
  let ((exponentSign, exponent), rest) := takeExponent rest
  let size : Int := Decimal.natural exponent
  let decimal : Decimal :=
    { integer := whole, fraction, exponent := if exponentSign == ['-'] then -size else size }
  if fraction.isEmpty && exponent.isEmpty then none
  else if sign != ['-'] && Binary64.isInfinite decimal.mantissa decimal.scale then none
  else
    let point := if fraction.isEmpty then [] else '.' :: fraction
    let power := if exponent.isEmpty then [] else 'e' :: exponentSign ++ exponent
    some (float (String.ofList (sign ++ whole ++ point ++ power)), rest)

/-- Read infinity, or what is not a number. -/
def readSpecial? (text : List Char) : Option (Toml × List Char) :=
  let (sign, rest) := takeSign text
  match rest with
  | 'i' :: 'n' :: 'f' :: rest => some (float (String.ofList (sign ++ ['i', 'n', 'f'])), rest)
  | 'n' :: 'a' :: 'n' :: rest => some (float (String.ofList (sign ++ ['n', 'a', 'n'])), rest)
  | _ => none

/-- Read a number. -/
def readNumber? (text : List Char) : Option (Toml × List Char) :=
  readDecimal? text <|> readSpecial? text <|> readInteger? text

end EntitySurface.Toml
