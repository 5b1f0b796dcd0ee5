import BranchDistance.Distance

/-!
# Outcomes

The result of a subcondition: a distance, or the reason why there is none.  What is missing may
still be negated; what is invalid stays invalid.
-/

namespace BranchDistance

/-- Why a subcondition has no distance. -/
inductive Cause where
  /-- A column is absent or an operand is null. -/
  | missing
  /-- Operands of different kinds, failed arithmetic, or a failed subquery. -/
  | invalid
  deriving DecidableEq, Repr

/-- The graver of two causes. -/
def Cause.worst : Cause → Cause → Cause
  | missing, missing => missing
  | _, _ => invalid

/-- The result of a subcondition. -/
inductive Outcome where
  | known (d : Distance)
  | unknown (cause : Cause)
  deriving DecidableEq

namespace Outcome

/-- The predicate holds. -/
def satisfied : Outcome := known Distance.zero

/-- The outcome with the finite distance nearest to a number. -/
def ofFloat (x : Float) : Outcome := known (Distance.ofFloat x)

def missing : Outcome := unknown .missing

def invalid : Outcome := unknown .invalid

/-- The distance; infinite if unknown. -/
def distance : Outcome → Distance
  | known d => d
  | unknown _ => Distance.infinite

def isSatisfied : Outcome → Bool
  | known d => d.isZero
  | unknown _ => false

/-- Conjunction: the sum of the distances, unknown if either is. -/
def and : Outcome → Outcome → Outcome
  | known a, known b => known (a + b)
  | unknown a, unknown b => unknown (a.worst b)
  | unknown a, known _ => unknown a
  | known _, unknown b => unknown b

/-- Disjunction: the smaller distance, unknown only if both are. -/
def or : Outcome → Outcome → Outcome
  | known a, known b => known (min a b)
  | known a, unknown _ => known a
  | unknown _, known b => known b
  | unknown .invalid, unknown .invalid => invalid
  | unknown _, unknown _ => missing

/-- Negation: a satisfied predicate costs the penalty, a failed or missing one is satisfied, and an
invalid one stays invalid. -/
def negate (penalty : Float) : Outcome → Outcome
  | known d => if d.isZero then ofFloat penalty else satisfied
  | unknown .missing => satisfied
  | unknown .invalid => invalid

/-- Satisfied, or a failure without degrees. -/
def ofBool (penalty : Float) (holds : Bool) : Outcome :=
  if holds then satisfied else ofFloat penalty

end Outcome

end BranchDistance
