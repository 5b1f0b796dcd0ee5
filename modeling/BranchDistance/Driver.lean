import BranchDistance.Failure
import BranchDistance.Row

/-!
# Drivers

A driver answers queries from the database under test.  What it answers may depend on all calls that
it has received before, and an answer takes time.
-/

namespace BranchDistance

/-- One call that a driver receives. -/
inductive Call where
  /-- Run a query; with a budget, within that many milliseconds. -/
  | execute (query : String) (budget : Option Nat)
  /-- Describe the state of the database for a log record. -/
  | dumpState
  deriving DecidableEq

/-- What comes of a query. -/
inductive Answer where
  | rows (rows : List Row)
  | error (e : DriverError)
  | panic

/-- An answer and the milliseconds that it takes. -/
structure Reply where
  answer : Answer
  latency : Nat := 0

/-- A driver, as a function of the calls that it has received before. -/
structure Driver where
  execute : (history : List Call) → (query : String) → (budget : Option Nat) → Reply
  /-- The description of the state; absent if the driver panics. -/
  dumpState : (history : List Call) → Option String

namespace Driver

/-- The error of a driver that has no database. -/
def unattachedError : DriverError := .unavailable "no driver attached"

/-- The driver that has no database. -/
def unattached : Driver where
  execute _ _ _ := ⟨.error unattachedError, 0⟩
  dumpState _ := some "no driver attached"

end Driver

end BranchDistance
