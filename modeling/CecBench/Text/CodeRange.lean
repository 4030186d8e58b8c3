/-!
# Ranges of code points

A property of characters is kept as a list of closed ranges of code points, in rising order.
-/

namespace CecBench.Text

/-- A closed range of code points: its first and its last member. -/
abbrev CodeRange := Nat × Nat

/-- The code point lies in one of the ranges. -/
def inRanges (ranges : List CodeRange) (n : Nat) : Bool :=
  ranges.any fun r => r.1 ≤ n && n ≤ r.2

end CecBench.Text
