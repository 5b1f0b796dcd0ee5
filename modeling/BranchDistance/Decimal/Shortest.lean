import BranchDistance.Binary64
import BranchDistance.Decimal.Basic

/-!
# The shortest decimal that reads back

A finite binary64 number stands for all reals that round to it.  Its shortest decimal is the number
with the fewest digits among those reals, and of two equally short ones the nearer; of two equally
near ones the greater.
-/

namespace BranchDistance.Decimal

/-- A positive value between the two bounds of the reals that round to it.  All three are multiples
of `1 / denominator`. -/
structure Interval where
  low : Nat
  value : Nat
  high : Nat
  denominator : Nat
  /-- Whether the bounds themselves round to the value. -/
  closed : Bool

namespace Interval

/-- The reals that round to `m · 2 ^ q`.  They reach half a unit to either side, but only a quarter
of a unit downward from a power of two, where the numbers below are twice as dense. -/
def ofParts (m : Nat) (q : Int) : Interval :=
  let unit := Nat.pow 2 q.toNat
  let below := if m = Nat.pow 2 52 ∧ -1074 < q then 1 else 2
  ⟨(4 * m - below) * unit, 4 * m * unit, (4 * m + 2) * unit, 4 * Nat.pow 2 (-q).toNat, m % 2 = 0⟩

/-- Whether `n / d` lies in the interval, where `d` is in units of the denominator. -/
def contains (i : Interval) (n d : Nat) : Bool :=
  if i.closed then i.low * d ≤ n && n ≤ i.high * d else i.low * d < n && n < i.high * d

/-- The place of the first digit: the least `p` with the value below `10 ^ p`. -/
def place (i : Interval) : Int :=
  if i.denominator ≤ i.value then digitCount (i.value / i.denominator)
  else 1 - (digitCount ((i.denominator - 1) / i.value) : Int)

/-- The nearer of the two neighbours of the value among the multiples of `10 ^ e` that lie in the
interval, if any does. -/
def onGrid (i : Interval) (e : Int) : Option Decimal :=
  let up := Nat.pow 10 (-e).toNat
  let down := Nat.pow 10 e.toNat
  -- the value is `n / d` grid units
  let n := i.value * up
  let d := i.denominator * down
  let floor := n / d
  let below := i.contains (floor * d) up
  let above := i.contains ((floor + 1) * d) up
  if above && (!below || d ≤ 2 * (n - floor * d)) then some ⟨floor + 1, e⟩
  else if below then some ⟨floor, e⟩
  else none

/-- The first grid with a point in the interval, tried with one digit more each time. -/
def search (i : Interval) (p : Int) : Nat → Nat → Decimal
  | 0, digits => ⟨0, p - digits⟩
  | tries + 1, digits =>
    match i.onGrid (p - digits) with
    | some d => d
    | none => i.search p tries (digits + 1)

end Interval

/-- Removes the zeros at the end of a significand. -/
def dropZeros : Nat → Decimal → Decimal
  | 0, d => d
  | n + 1, d =>
    if d.significand % 10 = 0 ∧ d.significand ≠ 0 then
      dropZeros n ⟨d.significand / 10, d.exponent + 1⟩
    else d

/-- The shortest decimal that reads back as `m · 2 ^ q`; seventeen digits always suffice. -/
def shortest (m : Nat) (q : Int) : Decimal :=
  if m = 0 then ⟨0, 0⟩
  else
    let i := Interval.ofParts m q
    dropZeros 17 (i.search i.place 17 1)

end BranchDistance.Decimal
