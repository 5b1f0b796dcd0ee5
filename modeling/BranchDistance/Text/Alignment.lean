import BranchDistance.Binary64
import BranchDistance.Count

/-!
# How far apart two texts are

Two measures on texts.  The alignment distance compares the texts character by character from their
start.  The order gap says which text comes first, by the first place where they differ.
-/

namespace BranchDistance.Text

/-- The cost of one character too many, the weight of a whole sixteen-bit character. -/
def characterWeight : Nat := 65536

/-- The difference of two natural numbers, whichever is larger. -/
def separation (m n : Nat) : Nat := (m - n) + (n - m)

/-- The sum of the code point differences of the characters that stand at the same place. -/
def alignedCost (a b : List Char) : Nat :=
  (a.zipWith (fun x y => separation x.toNat y.toNat) b).foldr (· + ·) 0

/-- The cost of the difference in length and of all characters that stand at the same place. -/
def alignmentCost (a b : List Char) : Nat :=
  addCounts (separation a.length b.length * characterWeight) (alignedCost a b)

/-- The alignment distance as a number. -/
def alignmentDistance (a b : String) : Float :=
  Binary64.ofInt (alignmentCost a.toList b.toList)

/-- The code point difference at the first place where two texts differ, or else their difference in
length: negative if the first text comes first, positive if it comes last. -/
def orderDifference : List Char → List Char → Int
  | x :: xs, y :: ys => if x = y then orderDifference xs ys else (x.toNat : Int) - y.toNat
  | xs, ys => (xs.length : Int) - ys.length

/-- The order gap as a number: the exact difference, rounded once.  For texts of at most `2 ^ 53`
characters it is also the difference of two numbers that are rounded before (`orderGap_eq_sub`); for
longer ones, whose lengths need not be numbers, the two may part. -/
def orderGap (a b : String) : Float := Binary64.ofInt (orderDifference a.toList b.toList)

end BranchDistance.Text
