import EntitySurface.Number.Decimal
import EntitySurface.Text.Blank

/-!
# Calendar dates

Dates of the proleptic Gregorian calendar and their written form `YYYY-MM-DD`. Reading is lenient
about blanks, signs and short numbers, writing is not: a year from 0 to 9999 takes four digits, any
other year a sign and at least four digits.
-/

namespace EntitySurface.Calendar

/-- A leap year is divisible by 4, and a century year only counts when divisible by 400. -/
def isLeapYear (year : Int) : Bool :=
  year % 4 == 0 && (year % 100 != 0 || year % 400 == 0)

/-- The number of days of a month. -/
def daysInMonth (year : Int) (month : Nat) : Nat :=
  if month == 2 then if isLeapYear year then 29 else 28
  else if month == 4 || month == 6 || month == 9 || month == 11 then 30 else 31

/-- The first representable year. -/
def minYear : Int := -262143

/-- The last representable year. -/
def maxYear : Int := 262142

/-- A date of the calendar within the representable years. -/
def isDate (year : Int) (month day : Nat) : Bool :=
  minYear ≤ year && year ≤ maxYear && 1 ≤ month && month ≤ 12
    && 1 ≤ day && day ≤ daysInMonth year month

/-- A calendar date. -/
structure Date where
  year : Int
  month : Nat
  day : Nat
  valid : isDate year month day = true
  deriving DecidableEq

/-- Why a text is not a date. -/
inductive DateProblem where
  /-- The text ends where a digit or a dash is needed. -/
  | tooShort
  /-- Another character stands where a digit or a dash is needed. -/
  | malformed
  | outOfRange
  | trailingText
  deriving DecidableEq

/-- What is wrong with the text, as a message ends. -/
def DateProblem.message : DateProblem → String
  | tooShort => "premature end of input"
  | malformed => "input contains invalid characters"
  | outOfRange => "input is out of range"
  | trailingText => "trailing input"

/-- The greatest number that an item may hold while it is read. -/
def maxItem : Nat := 0x7FFFFFFFFFFFFFFF

/-- Read the digits of an item that has started with the value `value`, at most `width` of them;
without a width every digit is taken. -/
def readDigits (width : Option Nat) (value : Nat) : List Char → Except DateProblem (Nat × List Char)
  | [] => .ok (value, [])
  | c :: rest =>
      if width == some 0 || !c.isDigit then .ok (value, c :: rest)
      else
        let next := value * 10 + Decimal.digitValue c
        if maxItem < next then .error .outOfRange
        else readDigits (width.map (· - 1)) next rest

/-- Read a number of at least one digit. -/
def readNumber (width : Option Nat) : List Char → Except DateProblem (Nat × List Char)
  | [] => .error .tooShort
  | c :: rest => if c.isDigit then readDigits width 0 (c :: rest) else .error .malformed

/-- Read a year: signed with any number of digits, or unsigned with at most four. -/
def readYear (text : List Char) : Except DateProblem (Int × List Char) := do
  let (year, rest) ← match Text.dropBlanks text with
    | '-' :: digits => do
        let (value, rest) ← readNumber none digits
        pure (-(value : Int), rest)
    | '+' :: digits => do
        let (value, rest) ← readNumber none digits
        pure ((value : Int), rest)
    | digits => do
        let (value, rest) ← readNumber (some 4) digits
        pure ((value : Int), rest)
  if -0x80000000 ≤ year && year < 0x80000000 then .ok (year, rest) else .error .outOfRange

/-- Read a month or a day: a number of at most two digits within bounds. -/
def readPart (least greatest : Nat) (text : List Char) : Except DateProblem (Nat × List Char) := do
  let (value, rest) ← readNumber (some 2) (Text.dropBlanks text)
  if least ≤ value && value ≤ greatest then .ok (value, rest) else .error .outOfRange

/-- Read the dash between two items. -/
def readDash : List Char → Except DateProblem (List Char)
  | [] => .error .tooShort
  | '-' :: rest => .ok rest
  | _ => .error .malformed

namespace Date

/-- Read a date; blanks at both ends are skipped. -/
def parse (text : String) : Except DateProblem Date := do
  let (year, rest) ← readYear (Text.trimChars text.toList)
  let rest ← readDash rest
  let (month, rest) ← readPart 1 12 rest
  let rest ← readDash rest
  let (day, rest) ← readPart 1 31 rest
  if !rest.isEmpty then .error .trailingText
  else if valid : isDate year month day = true then .ok ⟨year, month, day, valid⟩
  else .error .outOfRange

/-- The digits of a number, with zeros in front up to `width`. -/
def padded (width n : Nat) : List Char :=
  let digits := Nat.toDigits 10 n
  List.replicate (width - digits.length) '0' ++ digits

/-- The written form `YYYY-MM-DD`. -/
def text (date : Date) : String :=
  let year := padded 4 date.year.natAbs
  let signed :=
    if date.year < 0 then '-' :: year else if 9999 < date.year then '+' :: year else year
  String.ofList (signed ++ '-' :: padded 2 date.month ++ '-' :: padded 2 date.day)

/-- A date comes before another. -/
def before (first second : Date) : Bool :=
  first.year < second.year || (first.year == second.year &&
    (first.month < second.month || (first.month == second.month && first.day < second.day)))

end Date

end EntitySurface.Calendar
