/-!
# Deadlines

A limit on the time that one calculation may take, in milliseconds.
-/

namespace BranchDistance

/-- The milliseconds after which a calculation is given up, if there is a limit. -/
structure Deadline where
  limit : Option Nat
  deriving DecidableEq, Repr

namespace Deadline

/-- No limit. -/
def unbounded : Deadline := ⟨none⟩

/-- Whether the limit is reached after some time. -/
def isExpired (deadline : Deadline) (elapsed : Nat) : Bool :=
  match deadline.limit with
  | some limit => decide (limit ≤ elapsed)
  | none => false

/-- What is left of the limit after some time. -/
def remaining? (deadline : Deadline) (elapsed : Nat) : Option Nat :=
  deadline.limit.map (· - elapsed)

end Deadline

end BranchDistance
