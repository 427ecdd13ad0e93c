/-!
# Runs of code points

Tables of a character property list the code points that have it as runs. A run has a step, so that
the alternating letters of a cased alphabet take one entry.
-/

namespace EntitySurface.Text

/-- The code points `first`, `first + step`, …, up to `last`. -/
structure Span where
  first : Nat
  last : Nat
  step : Nat

namespace Span

/-- A code point lies in a run when it is within the ends and a whole number of steps from the
first. -/
def contains (span : Span) (n : Nat) : Bool :=
  span.first ≤ n && n ≤ span.last && (n - span.first) % span.step == 0

/-- Membership in a table of runs. -/
def covers (spans : List Span) (n : Nat) : Bool :=
  spans.any fun span => span.contains n

end Span

end EntitySurface.Text
