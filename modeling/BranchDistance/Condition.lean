import BranchDistance.Column
import BranchDistance.Value

/-!
# Conditions

A condition is a Boolean combination of simple predicates over scalar operands.  It is built once
from text and then read over many rows.
-/

namespace BranchDistance

/-- The six relations between two scalars. -/
inductive Relation where
  | eq
  | ne
  | lt
  | le
  | gt
  | ge
  deriving DecidableEq, Repr

/-- The sign of a relation. -/
def Relation.symbol : Relation → String
  | eq => "="
  | ne => "<>"
  | lt => "<"
  | le => "<="
  | gt => ">"
  | ge => ">="

/-- The five arithmetic operations. -/
inductive Operation where
  | add
  | subtract
  | multiply
  | divide
  | modulo
  deriving DecidableEq, Repr

/-- The sign of an operation. -/
def Operation.symbol : Operation → String
  | add => "+"
  | subtract => "-"
  | multiply => "*"
  | divide => "/"
  | modulo => "%"

/-- A scalar operand: a column, a literal or a result of arithmetic. -/
inductive Operand where
  | column (c : Column)
  | literal (v : Value)
  | arithmetic (op : Operation) (left right : Operand)
  deriving DecidableEq, Inhabited

namespace Operand

/-- The columns of an operand, from left to right. -/
def columns : Operand → List Column
  | column c => [c]
  | literal _ => []
  | arithmetic _ left right => left.columns ++ right.columns

end Operand

/-- A condition on one row.  Subqueries are carried as text. -/
inductive Condition where
  | compare (relation : Relation) (left right : Operand)
  | and (children : List Condition)
  | or (children : List Condition)
  | not (inner : Condition)
  | isNull (operand : Operand) (negated : Bool)
  | between (operand low high : Operand)
  | inList (operand : Operand) (candidates : List Operand)
  | inQuery (operand : Operand) (query : String)
  | like (operand pattern : Operand) (negated : Bool) (foldCase : Bool)
  | exists (query : String)
  deriving Inhabited

namespace Condition

mutual

/-- The columns of a condition, from left to right; those of subqueries are not among them. -/
def columns : Condition → List Column
  | compare _ left right => left.columns ++ right.columns
  | and children => columnsOfAll children
  | or children => columnsOfAll children
  | not inner => inner.columns
  | isNull operand _ => operand.columns
  | between operand low high => operand.columns ++ low.columns ++ high.columns
  | inList operand candidates => operand.columns ++ candidates.flatMap Operand.columns
  | inQuery operand _ => operand.columns
  | like operand pattern _ _ => operand.columns ++ pattern.columns
  | .exists _ => []

/-- The columns of several conditions, from left to right. -/
def columnsOfAll : List Condition → List Column
  | [] => []
  | child :: rest => child.columns ++ columnsOfAll rest

end

end Condition

end BranchDistance
