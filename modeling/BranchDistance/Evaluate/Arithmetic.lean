import BranchDistance.Condition
import BranchDistance.Outcome

/-!
# Arithmetic on values

Integer results stay integers as long as they fit; division, and all that does not fit, is done in
binary64.  Null absorbs, and a result that is not a finite number is invalid.
-/

namespace BranchDistance

/-- An integer as a value, if it fits into 64 binary digits. -/
def Value.ofInt? (n : Int) : Option Value :=
  if Int64.minValue.toInt ≤ n ∧ n ≤ Int64.maxValue.toInt then some (.int (Int64.ofInt n)) else none

namespace Operation

/-- The integer result, if the operation has one that fits.  The quotient of the least integer by
minus one does not fit, and the remainder is refused along with it. -/
def onIntegers (op : Operation) (a b : Int64) : Option Value :=
  match op with
  | add => Value.ofInt? (a.toInt + b.toInt)
  | subtract => Value.ofInt? (a.toInt - b.toInt)
  | multiply => Value.ofInt? (a.toInt * b.toInt)
  | divide => none
  | modulo =>
    if b = 0 ∨ (a = Int64.minValue ∧ b = -1) then none
    else Value.ofInt? (a.toInt.tmod b.toInt)

/-- The binary64 result; there is none for a division by zero. -/
def onNumbers (op : Operation) (a b : Float) : Option Float :=
  match op with
  | add => some (a + b)
  | subtract => some (a - b)
  | multiply => some (a * b)
  | divide => if b == 0 then none else some (a / b)
  | modulo => if b == 0 then none else some (Binary64.remainder a b)

/-- The binary64 result of two values that stand for numbers, if it is finite. -/
def onValues (op : Operation) (l r : Value) : Except Cause Value :=
  match l.asNumber?, r.asNumber? with
  | some a, some b =>
    match op.onNumbers a b with
    | some x => if x.isFinite then .ok (.float x) else .error .invalid
    | none => .error .invalid
  | _, _ => .error .invalid

/-- The result of an operation on two values. -/
def apply (op : Operation) (l r : Value) : Except Cause Value :=
  if l.isNull || r.isNull then .ok .null
  else match l, r with
    | .int a, .int b =>
      match op.onIntegers a b with
      | some v => .ok v
      | none => op.onValues l r
    | l, r => op.onValues l r

end Operation

end BranchDistance
