import EntitySurface.Calendar.Date

/-!
# Reading dates and times

A date of the years 0 to 9999, a time of day, or both, then possibly with an offset from universal
time. What is read is given back in its canonical text: a capital `T` before the time, no zeros at
the end of a fraction, and nine digits of it at most.
-/

namespace EntitySurface.Toml

/-- Read a number of exactly `width` digits within bounds. -/
def readFixed? (width least greatest : Nat) (text : List Char) : Option (Nat × List Char) :=
  let digits := (text.take width).takeWhile Char.isDigit
  let value := Decimal.natural digits
  if digits.length = width && least ≤ value && value ≤ greatest then some (value, text.drop width)
  else none

/-- Read a character that has to stand there. -/
def readSeparator? (separator : Char) : List Char → Option (List Char)
  | c :: rest => if c == separator then some rest else none
  | [] => none

/-- A number with zeros in front, in two digits at least. -/
def twoDigits (n : Nat) : List Char :=
  Calendar.Date.padded 2 n

/-- Read a date `YYYY-MM-DD`. -/
def readDate? (text : List Char) : Option (List Char × List Char) := do
  let (year, rest) ← readFixed? 4 0 9999 text
  let rest ← readSeparator? '-' rest
  let (month, rest) ← readFixed? 2 1 12 rest
  let rest ← readSeparator? '-' rest
  let (day, rest) ← readFixed? 2 1 (Calendar.daysInMonth year month) rest
  some (Calendar.Date.padded 4 year ++ '-' :: twoDigits month ++ '-' :: twoDigits day, rest)

/-- The fraction of a second at the front of a text, in canonical form. -/
def takeSecondFraction (text : List Char) : List Char × List Char :=
  match text with
  | '.' :: rest =>
      match Decimal.takeDigits rest with
      | ([], _) => ([], text)
      | (digits, rest) =>
          match ((digits.take 9).reverse.dropWhile (· == '0')).reverse with
          | [] => ([], rest)
          | kept => ('.' :: kept, rest)
  | _ => ([], text)

/-- Read a time of day `HH:MM:SS`, possibly with a fraction of a second; a minute may have a leap
second. -/
def readTime? (text : List Char) : Option (List Char × List Char) := do
  let (hour, rest) ← readFixed? 2 0 23 text
  let rest ← readSeparator? ':' rest
  let (minute, rest) ← readFixed? 2 0 59 rest
  let rest ← readSeparator? ':' rest
  let (second, rest) ← readFixed? 2 0 60 rest
  let (fraction, rest) := takeSecondFraction rest
  some (twoDigits hour ++ ':' :: twoDigits minute ++ ':' :: twoDigits second ++ fraction, rest)

/-- Read an offset from universal time: none, or a sign with hours and minutes. -/
def readOffset? : List Char → Option (List Char × List Char)
  | [] => none
  | sign :: rest =>
      if sign == 'Z' || sign == 'z' then some (['Z'], rest)
      else if sign == '+' || sign == '-' then do
        let (hour, rest) ← readFixed? 2 0 23 rest
        let rest ← readSeparator? ':' rest
        let (minute, rest) ← readFixed? 2 0 59 rest
        let sign := if hour == 0 && minute == 0 then '+' else sign
        some (sign :: twoDigits hour ++ ':' :: twoDigits minute, rest)
      else none

/-- Read a time of day after a date, with its offset if there is one. -/
def readDayTime? : List Char → Option (List Char × List Char)
  | [] => none
  | mark :: rest =>
      if mark == 'T' || mark == 't' || mark == ' ' then do
        let (time, rest) ← readTime? rest
        let (offset, rest) := (readOffset? rest).getD ([], rest)
        some ('T' :: time ++ offset, rest)
      else none

/-- Read a date, a date with a time, or a time of day. -/
def readMoment? (text : List Char) : Option (String × List Char) :=
  match readDate? text with
  | some (date, rest) =>
      let (time, rest) := (readDayTime? rest).getD ([], rest)
      some (String.ofList (date ++ time), rest)
  | none => (readTime? text).map fun (time, rest) => (String.ofList time, rest)

end EntitySurface.Toml
