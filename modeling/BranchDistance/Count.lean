/-!
# Counts

Counts have 64 binary digits.  A sum that does not fit stays at the greatest count.
-/

namespace BranchDistance

/-- The greatest count. -/
def countMax : Nat := Nat.pow 2 64 - 1

/-- The sum of two counts, or the greatest count if it is beyond. -/
def addCounts (a b : Nat) : Nat := Nat.min countMax (a + b)

end BranchDistance
