/-!
# Ranges of code points

Character properties are given as lists of closed ranges of code points.
-/

namespace TaskPipeline.Text

/-- A property of characters, as closed ranges of code points in ascending order. -/
abbrev Ranges := List (Nat × Nat)

/-- Whether a code point lies in one of the ranges. -/
def Ranges.contains (ranges : Ranges) (n : Nat) : Bool :=
  ranges.any fun r => r.1 ≤ n && n ≤ r.2

end TaskPipeline.Text
