/-!
# Characters by number

Escapes name characters by their number in hexadecimal digits.
-/

namespace BranchDistance.Text

/-- The value of a hexadecimal digit. -/
def hexValue? (c : Char) : Option Nat :=
  if c.isDigit then some (c.toNat - '0'.toNat)
  else if 'a' ≤ c ∧ c ≤ 'f' then some (c.toNat - 'a'.toNat + 10)
  else if 'A' ≤ c ∧ c ≤ 'F' then some (c.toNat - 'A'.toNat + 10)
  else none

/-- The value of a run of digits in a base. -/
def digitsValue (base : Nat) (ds : List Nat) : Nat := ds.foldl (fun n d => n * base + d) 0

/-- The number in exactly `count` hexadecimal digits at the start of a text, and the rest of it. -/
def takeHex? (count : Nat) (cs : List Char) : Option (Nat × List Char) :=
  let ds := cs.take count
  if ds.length = count ∧ ds.all fun d => (hexValue? d).isSome then
    some (digitsValue 16 (ds.filterMap hexValue?), cs.drop count)
  else none

/-- The character with a number, if there is one. -/
def charOfCode? (n : Nat) : Option Char :=
  if h : n.isValidChar then some (Char.ofNatAux n h) else none

end BranchDistance.Text
