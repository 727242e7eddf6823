/-!
# Ranges of code points

## Main definitions

* `Workforce.Text.CodeRange` — a range of code points, both ends included.
* `Workforce.Text.inRanges` — membership in a list of ranges.
-/

namespace Workforce.Text

/-- A range of code points, both ends included. -/
abbrev CodeRange := Nat × Nat

/-- The code point lies in one of the ranges. -/
def inRanges (ranges : List CodeRange) (n : Nat) : Bool :=
  ranges.any fun r => r.1 ≤ n && n ≤ r.2

end Workforce.Text
