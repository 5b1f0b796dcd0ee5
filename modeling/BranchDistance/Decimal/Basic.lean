/-!
# Decimal numbers

A decimal number is a natural significand scaled by a power of ten.  Reading one gives the nearest
binary64 number.
-/

namespace BranchDistance

/-- The number `significand · 10 ^ exponent`. -/
structure Decimal where
  significand : Nat
  exponent : Int
  deriving DecidableEq, Repr

namespace Decimal

/-- The number of decimal digits of a natural number; zero has one. -/
def digitCount (n : Nat) : Nat := (Nat.toDigits 10 n).length

/-- The value of a run of decimal digits. -/
def ofDigits (ds : List Char) : Nat :=
  ds.foldl (fun n c => n * 10 + (c.toNat - '0'.toNat)) 0

/-- The decimal text of an integer. -/
def ofInt (n : Int) : List Char :=
  if n < 0 then '-' :: Nat.toDigits 10 n.natAbs else Nat.toDigits 10 n.natAbs

/-- The nearest binary64 number.  Beyond `10 ^ 400` every number is infinite and below `10 ^ -400`
every number is zero, so no larger power of ten is ever formed. -/
def toFloat (d : Decimal) : Float :=
  if d.significand = 0 then 0
  else
    let place := d.exponent + digitCount d.significand
    if 400 < place then Float.ofBits 0x7FF0000000000000
    else if place < -400 then 0
    else Float.ofScientific d.significand (decide (d.exponent < 0)) d.exponent.natAbs

end Decimal

end BranchDistance
