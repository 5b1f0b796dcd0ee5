import BranchDistance.Calendar.Temporal
import BranchDistance.Value

/-!
# Bringing two values to one kind

Two values are compared as integers, as numbers, as text or as truth values.  Text that names an
instant, or a time of day, on both sides is compared on the time axis, in milliseconds.
-/

namespace BranchDistance

/-- Two values of one kind. -/
inductive Matched where
  /-- One of the two is null. -/
  | null
  /-- Integers are compared exactly. -/
  | integers (a b : Int)
  | numbers (a b : Float)
  | texts (a b : String)
  | bools (a b : Bool)

namespace Matched

/-- Two texts on the time axis if both name an instant or both a time of day, and as text if not. -/
def ofTexts (a b : String) : Matched :=
  match Calendar.instantMillis? a.toList, Calendar.instantMillis? b.toList with
  | some m, some n => integers m n
  | _, _ =>
    match Calendar.timeMillis? a.toList, Calendar.timeMillis? b.toList with
    | some m, some n => integers m n
    | _, _ => texts a b

/-- Two views of a kind, if both exist. -/
def both {α : Type} (make : α → α → Matched) : Option α → Option α → Option Matched
  | some a, some b => some (make a b)
  | _, _ => none

/-- Two values of one kind, or `none` if they have none in common.  Null matches everything; a truth
value on either side asks for truth values, and a number for numbers. -/
def ofValues? (l r : Value) : Option Matched :=
  match l, r with
  | .int a, .int b => some (integers a.toInt b.toInt)
  | .text a, .text b => some (ofTexts a b)
  | l, r =>
    if l.isNull || r.isNull then some null
    else if l.family == .bool || r.family == .bool then both bools l.asBool? r.asBool?
    else both numbers l.asNumber? r.asNumber?

end Matched

end BranchDistance
