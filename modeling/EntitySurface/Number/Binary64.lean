import EntitySurface.Number.Decimal

/-!
# The range of double-precision numbers

Which decimal numbers are too large for a double. All arithmetic is exact: a double that is an
integer is a natural number with at most 53 significant bits.
-/

namespace EntitySurface.Binary64

/-- Round to 53 significant bits; a half goes to the even neighbour. -/
def round (n : Nat) : Nat :=
  let unit := Nat.pow 2 (n.log2 + 1 - 53)
  let quotient := n / unit
  let remainder := n % unit
  if unit < 2 * remainder || (2 * remainder == unit && quotient % 2 == 1) then (quotient + 1) * unit
  else quotient * unit

/-- The least number that rounds to infinity: half a unit above the greatest double. -/
def bound : Nat := (Nat.pow 2 54 - 1) * Nat.pow 2 970

/-- The number `mantissa * 10 ^ scale` rounds to infinity. A mantissa of no more bits than the
places that a negative scale takes off is a number below one. -/
def isInfinite (mantissa : Nat) : (scale : Int) → Bool
  | .ofNat places => mantissa != 0 && (308 < places || bound ≤ mantissa * Nat.pow 10 places)
  | .negSucc places => places < mantissa.log2 && bound * Nat.pow 10 (places + 1) ≤ mantissa

end EntitySurface.Binary64
