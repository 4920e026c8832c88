
/-! # Ranges of code points

A character class is a list of closed ranges of code points.
-/

namespace Venues.Text

def covers (ranges : List (Nat × Nat)) (n : Nat) : Bool :=
  ranges.any fun r => r.1 ≤ n && n ≤ r.2

end Venues.Text
