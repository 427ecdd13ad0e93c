import EntitySurface.Json.Basic
import EntitySurface.Number.Binary64

/-!
# Reading JSON numbers

A number is an integer without leading zeros, a fraction and an exponent, the last two if they are
there. Numbers beyond the greatest double have no value.
-/

namespace EntitySurface.Json

/-- Read the integer part of a number: a zero, or digits that do not start with one. -/
def readInteger (text : List Char) : Option (List Char × List Char) :=
  match text with
  | '0' :: rest => if rest.head?.any Char.isDigit then none else some (['0'], rest)
  | _ =>
      match Decimal.takeDigits text with
      | ([], _) => none
      | found => some found

/-- Read the digits of a fraction, if there is one. -/
def readFraction : List Char → Option (List Char × List Char)
  | '.' :: rest =>
      match Decimal.takeDigits rest with
      | ([], _) => none
      | found => some found
  | rest => some ([], rest)

/-- Read an exponent, if there is one, with its text. -/
def readExponent : List Char → Option (Option (Int × List Char) × List Char)
  | e :: rest =>
      if e == 'e' || e == 'E' then
        let (negative, sign, rest) := match rest with
          | '+' :: rest => (false, ['+'], rest)
          | '-' :: rest => (true, ['-'], rest)
          | rest => (false, [], rest)
        match Decimal.takeDigits rest with
        | ([], _) => none
        | (digits, rest) =>
            let size : Int := Decimal.natural digits
            some (some (if negative then -size else size, e :: sign ++ digits), rest)
      else some (none, e :: rest)
  | [] => some (none, [])

/-- Take up digits as long as the number stays below `2 ^ 64`; the digits left over come with it. -/
def takeFitting (value : Nat) : List Char → Nat × List Char
  | [] => (value, [])
  | c :: rest =>
      let next := value * 10 + Decimal.digitValue c
      if next < UInt64.size then takeFitting next rest else (value, c :: rest)

/-- A number has no value when it comes out as infinite: its leading digits, as many as fit into 64
bits, are rounded, and so are the power of ten that scales them and the product. -/
def isTooLarge (number : Decimal) : Bool :=
  let (leading, dropped) := takeFitting 0 number.integer
  let (leading, rest) := takeFitting leading number.fraction
  let taken := number.fraction.length - rest.length
  match number.exponent + dropped.length - taken with
  | .ofNat places =>
      leading != 0 && (308 < places ||
        Binary64.bound ≤ Binary64.round leading * Binary64.round (Nat.pow 10 places))
  | .negSucc _ => false

/-- Read a number. -/
def readNumber (text : List Char) : Option (Json × List Char) := do
  let (sign, unsigned) := match text with
    | '-' :: rest => (['-'], rest)
    | rest => ([], rest)
  let (integer, rest) ← readInteger unsigned
  let (fraction, rest) ← readFraction rest
  let (exponent, rest) ← readExponent rest
  let size := Decimal.natural integer
  match sign, fraction, exponent with
  | [], [], none =>
      if size < UInt64.size || !isTooLarge { integer } then some (natural size, rest)
      else some (unusable, rest)
  | _, _, _ =>
      let point := if fraction.isEmpty then [] else '.' :: fraction
      let literal := sign ++ integer ++ point ++ (exponent.elim [] Prod.snd)
      if isTooLarge { integer, fraction, exponent := exponent.elim 0 Prod.fst } then
        some (unusable, rest)
      else some (numeral (String.ofList literal), rest)

end EntitySurface.Json
