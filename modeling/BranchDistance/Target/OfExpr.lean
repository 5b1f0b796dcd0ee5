import BranchDistance.Evaluate.Arithmetic
import BranchDistance.Sql.Expr
import BranchDistance.Target.Error

/-!
# From expressions to conditions

An expression becomes a condition or an operand by its form alone.  Parentheses, conversions and
positive signs leave no trace, and a chain of one connective becomes one condition, whose parts are
those of the chain from left to right.
-/

namespace BranchDistance

open Sql (Expr)

namespace Operand

/-- The value of a run of digits with an optional point and exponent: an integer if it fits into 64
binary digits, and else the nearest finite number. -/
def ofDigits? (digits : String) : Except TargetError Value :=
  match (Decimal.readInt? digits.toList).bind Value.ofInt? with
  | some v => .ok v
  | none =>
    match (Decimal.readFloat? digits.toList).filter Float.isFinite with
    | some x => .ok (.float x)
    | none => .error (.invalidNumber digits)

/-- The value of a literal.  What stands in double quotes is a name and never comes here. -/
def ofLiteral? (l : Sql.Literal) : Except TargetError Value :=
  match l with
  | .number digits _ => ofDigits? digits
  | .text .plain content => .ok (.text content)
  | .text .national content => .ok (.text content)
  | .text .escaped content => .ok (.text content)
  | .bool b => .ok (.bool b)
  | .null => .ok .null
  | l => .error (.unsupportedExpression l.render)

/-- The column that a name of several parts means: the last part, qualified by the one before. -/
def ofPath? (parts : List Sql.Name) : Except TargetError Operand :=
  match parts.reverse with
  | last :: qualifier :: _ => .ok (.column (.named (some qualifier.text) last.text))
  | [last] => .ok (.column (.named none last.text))
  | [] => .error (.unsupportedExpression (Sql.renderPath parts))

/-- The negative of an operand: of a literal its value, and of all else a difference. -/
def negative (operand : Operand) : Operand :=
  match operand with
  | .literal (.int n) =>
    if n = Int64.minValue then .arithmetic .subtract (.literal (.int 0)) operand
    else .literal (.int (-n))
  | .literal (.float x) => .literal (.float (-x))
  | _ => .arithmetic .subtract (.literal (.int 0)) operand

/-- The operand that an expression is. -/
def ofExpr? : Expr → Except TargetError Operand
  | .path parts => ofPath? parts
  | .literal l => return .literal (← ofLiteral? l)
  | .typed _ content => .ok (.literal (.text content))
  | .nested inner => ofExpr? inner
  | .cast _ inner _ => ofExpr? inner
  | .leading .plus inner => ofExpr? inner
  | .leading .minus inner => return negative (← ofExpr? inner)
  | .binary left (.operation op) right => return .arithmetic op (← ofExpr? left) (← ofExpr? right)
  | e => .error (.unsupportedExpression e.render)

end Operand

namespace Condition

/-- The condition, or its negation. -/
def negatedIf (negated : Bool) (c : Condition) : Condition := if negated then .not c else c

/-- That an operand is true, or that it is false. -/
def hasTruth (truth : Bool) (operand : Operand) : Condition :=
  .compare .eq operand (.literal (.bool truth))

/-- A condition with the chain at its top left open: the parts of a chain of one connective, or a
condition that is no chain. -/
inductive Chain where
  | single (c : Condition)
  | all (parts : List Condition)
  | any (parts : List Condition)

namespace Chain

/-- The condition that a chain is. -/
def condition : Chain → Condition
  | single c => c
  | all parts => .and parts
  | any parts => .or parts

/-- The parts that a chain adds to a conjunction. -/
def conjuncts : Chain → List Condition
  | all parts => parts
  | c => [c.condition]

/-- The parts that a chain adds to a disjunction. -/
def disjuncts : Chain → List Condition
  | any parts => parts
  | c => [c.condition]

/-- The chain that an expression is.  Of several faults the leftmost is reported. -/
def ofExpr? : Expr → Except TargetError Chain
  | .nested inner => return single (← ofExpr? inner).condition
  | .binary left .and right =>
    return all ((← ofExpr? left).conjuncts ++ (← ofExpr? right).conjuncts)
  | .binary left .or right =>
    return any ((← ofExpr? left).disjuncts ++ (← ofExpr? right).disjuncts)
  | .binary left (.relation r) right =>
    return single (.compare r (← Operand.ofExpr? left) (← Operand.ofExpr? right))
  | .leading .not inner => return single (.not (← ofExpr? inner).condition)
  | .is inner negated .null => return single (.isNull (← Operand.ofExpr? inner) negated)
  | .is inner negated .true =>
    return single (negatedIf negated (hasTruth true (← Operand.ofExpr? inner)))
  | .is inner negated .false =>
    return single (negatedIf negated (hasTruth false (← Operand.ofExpr? inner)))
  | .between inner negated low high =>
    return single (negatedIf negated (.between (← Operand.ofExpr? inner) (← Operand.ofExpr? low)
      (← Operand.ofExpr? high)))
  | .inList inner negated list => do
    let candidates ← list.mapM Operand.ofExpr?
    return single (negatedIf negated (.inList (← Operand.ofExpr? inner) candidates))
  | .inQuery inner negated query =>
    return single (negatedIf negated (.inQuery (← Operand.ofExpr? inner) query))
  | .exists negated query => return single (negatedIf negated (.exists query))
  | .like inner negated foldCase _ pattern none =>
    return single (.like (← Operand.ofExpr? inner) (← Operand.ofExpr? pattern) negated foldCase)
  | .path parts => return single (hasTruth true (← Operand.ofPath? parts))
  | .literal (.bool b) => return single (hasTruth true (.literal (.bool b)))
  | e => .error (.unsupportedCondition e.render)

end Chain

/-- The condition that an expression is. -/
def ofExpr? (e : Expr) : Except TargetError Condition := return (← Chain.ofExpr? e).condition

end Condition

end BranchDistance
