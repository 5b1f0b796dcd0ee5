import BranchDistance.Decimal.Shortest

/-!
# Written numbers

How a binary64 number is written: which numbers are written with an exponent, and what follows a
number without a fraction.  The digits are those of the shortest decimal that reads back.
-/

namespace BranchDistance.Decimal

/-- The decisions of a number format.  The place of a number is that of its first digit: `1` for
`1` to `9`, `0` for tenths. -/
structure Layout where
  /-- Written after a number without a fraction. -/
  integralTail : List Char
  /-- The places whose numbers are written without an exponent, if there is a limit. -/
  positional : Option (Int × Int)

/-- Plain notation: never an exponent, and nothing after an integral number. -/
def plain : Layout := ⟨[], none⟩

/-- Tagged notation: `.0` after an integral number, and an exponent from `10 ^ 16` on and below
`10 ^ -4`. -/
def tagged : Layout := ⟨['.', '0'], some (-3, 16)⟩

/-- The digits of a decimal with the point in its place. -/
def positionalText (tail : List Char) (digits : List Char) (exponent : Int) : List Char :=
  if 0 ≤ exponent then digits ++ List.replicate exponent.toNat '0' ++ tail
  else
    let fraction := (-exponent).toNat
    if fraction < digits.length then
      digits.take (digits.length - fraction) ++ '.' :: digits.drop (digits.length - fraction)
    else '0' :: '.' :: List.replicate (fraction - digits.length) '0' ++ digits

/-- The digits of a decimal with the point after the first, and the exponent that puts it back. -/
def exponentText (digits : List Char) (exponent : Int) : List Char :=
  let fraction := match digits.tail with
    | [] => []
    | rest => '.' :: rest
  digits.take 1 ++ fraction ++ 'e' :: ofInt (exponent + digits.length - 1)

/-- The text of a finite magnitude. -/
def Layout.magnitude (layout : Layout) (d : Decimal) : List Char :=
  let digits := Nat.toDigits 10 d.significand
  let place := d.exponent + digits.length
  match layout.positional with
  | some (least, greatest) =>
    if d.significand ≠ 0 ∧ (place < least ∨ greatest < place) then exponentText digits d.exponent
    else positionalText layout.integralTail digits d.exponent
  | none => positionalText layout.integralTail digits d.exponent

/-- The text of a number. -/
def Layout.write (layout : Layout) (x : Float) : List Char :=
  match Binary64.parts? x with
  | some p =>
    let text := layout.magnitude (shortest p.significand p.exponent)
    if p.negative then '-' :: text else text
  | none =>
    if x.isNaN then ['N', 'a', 'N']
    else if Binary64.signBit x then ['-', 'i', 'n', 'f'] else ['i', 'n', 'f']

/-- The text of a number in plain notation. -/
def text (x : Float) : String := String.ofList (plain.write x)

/-- The text of a number in tagged notation. -/
def taggedText (x : Float) : String := String.ofList (tagged.write x)

end BranchDistance.Decimal
