/-!
# Exact operations on binary64 numbers

Distances and numeric values are binary64 numbers.  Core gives their sums, products and quotients;
this module adds the conversion from unbounded integers, the exact parts of a finite number, and the
remainder of a division whose quotient is cut toward zero.
-/

namespace BranchDistance.Binary64

/-- The nearest number to an integer; of two equally near numbers the one with the even
significand. -/
def ofInt (n : Int) : Float := Float.ofModel (Float.Model.ofInt n)

/-- The nearest number to `n · 2 ^ e`, with a zero of the given sign. -/
def ofScaled (n : Int) (e : Int) (negativeZero : Bool) : Float :=
  Float.ofModel (Float.Model.pack (Float.Model.UnpackedFloat.normalize .binary64 n e
    (if negativeZero then .negative else .positive)))

/-- A finite number in the form `± significand · 2 ^ exponent`. -/
structure Parts where
  negative : Bool
  significand : Nat
  exponent : Int

/-- The parts of a finite number; `none` for the infinities and for what is not a number.  A number
with the least exponent has a significand below `2 ^ 52`, any other has 53 binary digits. -/
def parts? (x : Float) : Option Parts :=
  let bits := x.toBits.toNat
  let fraction : Nat := bits % Nat.pow 2 52
  let field : Nat := bits / Nat.pow 2 52 % Nat.pow 2 11
  let negative := bits / Nat.pow 2 63 == 1
  if field = 2047 then none
  else if field = 0 then some ⟨negative, fraction, -1074⟩
  else some ⟨negative, Nat.pow 2 52 + fraction, (field : Int) - 1075⟩

/-- Whether the sign bit is set. -/
def signBit (x : Float) : Bool := x.toBits.toNat / Nat.pow 2 63 == 1

/-- The value that represents no number. -/
def nan : Float := Float.ofBits 0x7FF8000000000000

/-- Positive infinity. -/
def infinity : Float := Float.ofBits 0x7FF0000000000000

/-- The largest finite number. -/
def largest : Float := Float.ofBits 0x7FEFFFFFFFFFFFFF

/-- The remainder of `x` divided by `y`, with the sign of `x`.  It is computed over the integers at
the finer of the two exponents, so it is exact. -/
def remainder (x y : Float) : Float :=
  match parts? x, parts? y with
  | some a, some b =>
    if b.significand = 0 then nan
    else
      let e := min a.exponent b.exponent
      let n := a.significand * Nat.pow 2 (a.exponent - e).toNat
      let d := b.significand * Nat.pow 2 (b.exponent - e).toNat
      let r : Int := (n % d : Nat)
      ofScaled (if a.negative then -r else r) e a.negative
  | some _, none => if y.isNaN then nan else x
  | none, _ => nan

end BranchDistance.Binary64
