import BranchDistance.Binary64
import BranchDistance.Decimal.Basic

/-!
# Reading numbers

A written number is an optional sign and then digits with an optional point and exponent, or one of
the words for infinity and for what is not a number.  It is read as the nearest binary64 number.
-/

namespace BranchDistance.Decimal

/-- The digits at the start of a text, and the rest of it. -/
def takeDigits (cs : List Char) : List Char × List Char :=
  (cs.takeWhile Char.isDigit, cs.dropWhile Char.isDigit)

/-- The sign at the start of a text, and the rest of it. -/
def takeSign : List Char → Bool × List Char
  | '-' :: rest => (true, rest)
  | '+' :: rest => (false, rest)
  | cs => (false, cs)

/-- The value of an exponent part: `e`, an optional sign and at least one digit.  The whole text
must be of that form, or empty. -/
def readExponent? : List Char → Option Int
  | [] => some 0
  | c :: rest =>
    if c = 'e' ∨ c = 'E' then
      let (negative, body) := takeSign rest
      let (digits, tail) := takeDigits body
      if digits.isEmpty ∨ !tail.isEmpty then none
      else some (if negative then -(ofDigits digits : Int) else ofDigits digits)
    else none

/-- Reads an unsigned number: digits, a point and digits, where one of the two runs may be empty,
and an exponent part. -/
def readUnsigned? (cs : List Char) : Option Decimal :=
  let (whole, afterWhole) := takeDigits cs
  let (fraction, tail) := match afterWhole with
    | '.' :: rest => takeDigits rest
    | rest => ([], rest)
  if whole.isEmpty ∧ fraction.isEmpty then none
  else (readExponent? tail).map fun e => ⟨ofDigits (whole ++ fraction), e - fraction.length⟩

/-- The number a word stands for, in any mixture of capitals. -/
def readWord? (cs : List Char) : Option Float :=
  let word := String.ofList (cs.map Char.toLower)
  if word = "inf" ∨ word = "infinity" then some Binary64.infinity
  else if word = "nan" then some Binary64.nan
  else none

/-- Reads a number; the whole text must be one. -/
def readFloat? (cs : List Char) : Option Float :=
  let (negative, body) := takeSign cs
  let magnitude := match readWord? body with
    | some x => some x
    | none => (readUnsigned? body).map toFloat
  magnitude.map fun x => if negative then -x else x

/-- Reads an integer: an optional sign and at least one digit. -/
def readInt? (cs : List Char) : Option Int :=
  let (negative, digits) := takeSign cs
  if digits.isEmpty ∨ !digits.all Char.isDigit then none
  else some (if negative then -(ofDigits digits : Int) else ofDigits digits)

end BranchDistance.Decimal
