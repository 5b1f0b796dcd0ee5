/-!
# Sets of characters as code point ranges

A set of characters is written as an ascending list of disjoint closed ranges of code points.
-/

namespace BranchDistance.Text

/-- Whether a code point lies in one of the ascending ranges; the search stops at the first range
beyond it. -/
def inRanges : List (Nat × Nat) → Nat → Bool
  | [], _ => false
  | (first, last) :: rest, n => if n < first then false else n ≤ last || inRanges rest n

end BranchDistance.Text
