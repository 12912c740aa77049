/-!
Sets of characters as lists of ranges.
-/

namespace Tollgate.Text

/-- Whether a character lies in one of the ranges, each given by its first and last number. -/
def inRanges (ranges : List (Nat × Nat)) (c : Char) : Bool :=
  ranges.any fun r => r.1 ≤ c.toNat && c.toNat ≤ r.2

end Tollgate.Text
