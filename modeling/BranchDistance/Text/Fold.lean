import BranchDistance.Text.Cased
import BranchDistance.Text.LowerCase

/-!
# Case folding

Names and case-insensitive operands are compared in lower case.  Folding is character by character
but for the capital sigma, which becomes the final form `ς` at the end of a word and `σ` elsewhere.
-/

namespace BranchDistance.Text

/-- Whether the first character that is not passed over is cased. -/
def nextIsCased (cs : List Char) : Bool :=
  match cs.dropWhile isCaseIgnorable with
  | [] => false
  | c :: _ => isCased c

/-- Folds a text whose predecessors, nearest first, are `before`. -/
def foldAfter (before : List Char) : List Char → List Char
  | [] => []
  | c :: rest =>
    let folded :=
      if c = 'Σ' then
        if nextIsCased before && !nextIsCased rest then ['ς'] else ['σ']
      else lower c
    folded ++ foldAfter (c :: before) rest

/-- The folded characters of a text. -/
def fold (cs : List Char) : List Char := foldAfter [] cs

/-- The folded form of a text. -/
def casefold (s : String) : String := String.ofList (fold s.toList)

end BranchDistance.Text
