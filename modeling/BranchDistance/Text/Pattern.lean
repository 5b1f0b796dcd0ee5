import BranchDistance.Text.Fold

/-!
# How far a text is from a pattern

In a pattern `%` stands for any run of characters and `_` for any one character.  The distance is
the least number of insertions, deletions and substitutions of single characters that make the
text match. It is found row by row: after each pattern character, one cost for every start of the
text.
-/

namespace BranchDistance.Text

/-- The costs after the pattern character `p`, given the cost `left` at the place before, the former
cost `diagonal` at that place, and the former costs at the places that follow. -/
def sweep (p : Char) : Nat → Nat → List Char → List Nat → List Nat
  | left, diagonal, c :: cs, above :: former =>
    let cost :=
      if p = '%' then Nat.min above left
      else
        let step := if p = '_' ∨ p = c then 0 else 1
        Nat.min (Nat.min (diagonal + step) (above + 1)) (left + 1)
    cost :: sweep p cost above cs former
  | _, _, _, _ => []

/-- The costs after one more pattern character. -/
def nextCosts (p : Char) (text : List Char) : List Nat → List Nat
  | [] => []
  | first :: former =>
    let start := if p = '%' then first else first + 1
    start :: sweep p start first text former

/-- The costs after a pattern, for every start of the text. -/
def costs (text pattern : List Char) : List Nat :=
  pattern.foldl (fun former p => nextCosts p text former) (List.range (text.length + 1))

/-- The least number of edits that make a text match a pattern. -/
def patternDistance (text pattern : List Char) : Nat := (costs text pattern).getLastD 0

/-- The pattern distance of two strings, in folded form if `foldCase`. -/
def likeDistance (text pattern : String) (foldCase : Bool) : Nat :=
  if foldCase then patternDistance (fold text.toList) (fold pattern.toList)
  else patternDistance text.toList pattern.toList

end BranchDistance.Text
