/-!
# Decimal numerals

Digits and the numbers that they stand for. A numeral is kept by its digits, so that a reader can
decide about its size before any arithmetic is done with it.
-/

namespace EntitySurface

/-- A number without its sign: the digits before and after the point, and a power of ten. -/
structure Decimal where
  integer : List Char
  fraction : List Char := []
  exponent : Int := 0

namespace Decimal

/-- The value of a decimal digit. -/
def digitValue (c : Char) : Nat :=
  c.toNat - '0'.toNat

/-- The value of a list of decimal digits. -/
def natural (digits : List Char) : Nat :=
  digits.foldl (fun value c => value * 10 + digitValue c) 0

/-- The digits at the front of a text, and what follows them. -/
def takeDigits (text : List Char) : List Char × List Char :=
  (text.takeWhile Char.isDigit, text.dropWhile Char.isDigit)

/-- The number without its point: all digits in a row. -/
def mantissa (decimal : Decimal) : Nat :=
  natural (decimal.integer ++ decimal.fraction)

/-- The power of ten by which the mantissa is scaled. -/
def scale (decimal : Decimal) : Int :=
  decimal.exponent - decimal.fraction.length

end Decimal

end EntitySurface
