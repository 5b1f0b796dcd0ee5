import BranchDistance.Evaluate.Leaf
import BranchDistance.Evaluate.Run

/-!
# Evaluating conditions

The outcome of a condition over one row.  A conjunction is the sum of all its parts, a disjunction
the least of its parts up to the first that is satisfied.  Only the deadline gives an evaluation
up; every other failure makes a part of the condition unknown.
-/

namespace BranchDistance

namespace Setting

variable (setting : Setting) (scope : Scope)

/-- That an operand is among the first values of the rows of a subquery. -/
def inQuery (operand : Operand) (query : String) : Run Outcome := do
  match operand.value? scope with
  | .error cause => return .unknown cause
  | .ok v =>
    if v.isNull then return .missing
    else match ← setting.subquery .subselect query with
      | some rows => return Leaf.inRows setting.config v rows
      | none => return .invalid

/-- That a subquery has rows. -/
def existsRow (query : String) : Run Outcome := do
  match ← setting.subquery .exists query with
  | some rows => return .ofBool setting.config.penalty (!rows.isEmpty)
  | none => return .invalid

mutual

/-- The outcome of a condition over a row. -/
def outcome : Condition → Run Outcome
  | .compare relation left right => do
    setting.check
    return Leaf.compare setting.config scope relation left right
  | .and children => do
    setting.check
    conjunction .satisfied children
  | .or children => do
    setting.check
    disjunction none children
  | .not inner => do
    setting.check
    return (← outcome inner).negate setting.config.penalty
  | .isNull operand negated => do
    setting.check
    return Leaf.isNull setting.config scope operand negated
  | .between operand low high => do
    setting.check
    return Leaf.between setting.config scope operand low high
  | .inList operand candidates => do
    setting.check
    return Leaf.inList setting.config scope operand candidates
  | .inQuery operand query => do
    setting.check
    setting.inQuery scope operand query
  | .like operand pattern negated foldCase => do
    setting.check
    return Leaf.like setting.config scope operand pattern negated foldCase
  | .exists query => do
    setting.check
    setting.existsRow query

/-- The conjunction of an outcome and those of some more conditions. -/
def conjunction (total : Outcome) : List Condition → Run Outcome
  | [] => pure total
  | child :: rest => do conjunction (total.and (← outcome child)) rest

/-- The disjunction of an outcome, if there is one, and those of some more conditions.  Those
after a satisfied one are not evaluated. -/
def disjunction (best : Option Outcome) : List Condition → Run Outcome
  | [] => pure (best.getD .invalid)
  | child :: rest => do
    let o ← outcome child
    if o.isSatisfied then return o
    else disjunction (some (match best with
      | some b => b.or o
      | none => o)) rest

end

/-- The distance of a condition over a row.  An evaluation that is given up is logged and infinitely
far. -/
def distance (c : Condition) (progress : Progress) : Distance × Progress :=
  match (setting.outcome scope c).run progress with
  | (.ok o, after) => (o.distance, after)
  | (.error f, after) => (.infinite, ((Run.log (.aborted f)).run after).2)

end Setting

end BranchDistance
