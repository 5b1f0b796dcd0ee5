import BranchDistance.Evaluate.Arithmetic
import BranchDistance.Evaluate.Relation
import BranchDistance.Row.Scope
import BranchDistance.Text.Pattern

/-!
# Leaves

The outcomes of the predicates that need nothing but the row: relations between operands, tests for
null, ranges, lists and patterns.
-/

namespace BranchDistance

/-- The value of an operand over a row, or why it has none.  Of two faults the left one counts. -/
def Operand.value? (scope : Scope) : Operand → Except Cause Value
  | .literal v => .ok v
  | .column c =>
    match scope.get? c with
    | some v => .ok v
    | none => .error .missing
  | .arithmetic op left right =>
    match left.value? scope with
    | .error cause => .error cause
    | .ok l =>
      match right.value? scope with
      | .error cause => .error cause
      | .ok r => op.apply l r

namespace Outcome

/-- The outcome of a predicate on two operands; without one of them it is unknown, for the graver of
the reasons. -/
def ofOperands (f : Value → Value → Outcome) (l r : Except Cause Value) : Outcome :=
  match l, r with
  | .ok a, .ok b => f a b
  | .error a, .error b => unknown (a.worst b)
  | .error cause, .ok _ => unknown cause
  | .ok _, .error cause => unknown cause

/-- The outcome of a predicate on one operand. -/
def ofOperand (f : Value → Outcome) (v : Except Cause Value) : Outcome :=
  match v with
  | .ok a => f a
  | .error cause => unknown cause

/-- The disjunction of one outcome and some more, of which those after a satisfied one do not
count. -/
def orAll (best : Outcome) : List Outcome → Outcome
  | [] => best
  | o :: rest => if o.isSatisfied then o else orAll (best.or o) rest

/-- The disjunction of some outcomes; of none it is invalid. -/
def any : List Outcome → Outcome
  | [] => invalid
  | o :: rest => if o.isSatisfied then o else orAll o rest

end Outcome

namespace Leaf

variable (config : Config) (scope : Scope)

/-- A relation between two operands. -/
def compare (relation : Relation) (left right : Operand) : Outcome :=
  .ofOperands (relation.outcome config) (left.value? scope) (right.value? scope)

/-- That an operand is null, or that it is not. -/
def isNull (operand : Operand) (negated : Bool) : Outcome :=
  .ofOperand (fun v => .ofBool config.penalty (v.isNull != negated)) (operand.value? scope)

/-- A relation between a value and an operand. -/
def against (relation : Relation) (value : Value) (other : Operand) : Outcome :=
  .ofOperand (relation.outcome config value) (other.value? scope)

/-- That an operand lies in a range, ends included. -/
def between (operand low high : Operand) : Outcome :=
  .ofOperand (fun v => (against config scope .ge v low).and (against config scope .le v high))
    (operand.value? scope)

/-- That an operand equals one of some candidates. -/
def inList (operand : Operand) (candidates : List Operand) : Outcome :=
  .ofOperand (fun v => .any (candidates.map (against config scope .eq v))) (operand.value? scope)

/-- That a value matches a pattern, or that it does not. -/
def matching (negated foldCase : Bool) (value pattern : Value) : Outcome :=
  match value.searchText?, pattern.searchText? with
  | some text, some pattern =>
    let edits := Text.likeDistance text pattern foldCase
    if negated then .ofBool config.penalty (decide (0 < edits))
    else .ofFloat (Binary64.ofInt edits)
  | _, _ => .missing

/-- That an operand matches a pattern, or that it does not. -/
def like (operand pattern : Operand) (negated foldCase : Bool) : Outcome :=
  .ofOperands (matching config negated foldCase) (operand.value? scope) (pattern.value? scope)

/-- That a value equals the first value of one of some rows. -/
def inRows (value : Value) (rows : List Row) : Outcome :=
  .ofBool config.penalty
    ((rows.filterMap Row.first?).any fun v => (Relation.eq.outcome config value v).isSatisfied)

end Leaf

end BranchDistance
