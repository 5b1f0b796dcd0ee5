import BranchDistance.Binary64
import BranchDistance.Decimal.Layout

/-!
# Distances

A distance says how far a predicate is from being satisfied.  It is zero when the predicate holds,
a positive finite number when it fails, and infinite when nothing is known.  The type admits only
these values: never a negative number, never a negative zero, never what is not a number.
-/

namespace BranchDistance

/-- The values a distance may take: positive zero and everything above it, infinity included. -/
def IsDistance (x : Float) : Prop := x.toBits = 0 ∨ (x.isNaN = false ∧ ¬ x ≤ 0)

/-- A branch distance. -/
structure Distance where
  value : Float
  isDistance : IsDistance value
  deriving DecidableEq

namespace Distance

/-- The distance of a satisfied predicate. -/
def zero : Distance := ⟨0, .inl (by decide)⟩

/-- The distance of what cannot be satisfied or is unknown; above every finite distance. -/
def infinite : Distance := ⟨Binary64.infinity, .inr (by decide)⟩

/-- The greatest finite distance. -/
def greatest : Distance := ⟨Binary64.largest, .inr (by decide)⟩

/-- The finite distance nearest to a number: negative numbers count as zero, and sums beyond the
greatest finite number as that number.  What is not a number is infinitely far. -/
def ofFloat (x : Float) : Distance :=
  if hn : x.isNaN = true then infinite
  else if h : x ≤ 0 then zero
  else if Binary64.largest < x then greatest
  else ⟨x, .inr ⟨by simpa using hn, h⟩⟩

/-- Whether the predicate is satisfied. -/
def isZero (d : Distance) : Bool := d.value == 0

/-- Whether nothing is known. -/
def isInfinite (d : Distance) : Bool := d.value.isInf

/-- The sum: infinite if a part is, and never above the greatest finite distance otherwise. -/
def add (a b : Distance) : Distance :=
  if a.isInfinite || b.isInfinite then infinite else ofFloat (a.value + b.value)

instance : Add Distance := ⟨add⟩

/-- The smaller of two distances; the first of two equal ones. -/
def min (a b : Distance) : Distance := if b.value < a.value then b else a

instance : Min Distance := ⟨min⟩

/-- Distances are ordered by their bits, which on this type is the numeric order. -/
instance : Ord Distance := ⟨fun a b => compare a.value.toBits b.value.toBits⟩

/-- The text of a distance. -/
def text (d : Distance) : String := if d.isInfinite then "INF" else Decimal.text d.value

instance : ToString Distance := ⟨text⟩

end Distance

end BranchDistance
