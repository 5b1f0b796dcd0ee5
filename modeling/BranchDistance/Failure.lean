import BranchDistance.Target.Error

/-!
# Failures

Why a calculation did not come to a result.  Failures are classified for the event stream and the
log; the queries of a driver fail in three ways of their own.
-/

namespace BranchDistance

/-- The classes of failure. -/
inductive FailureClass where
  | malformed
  | unsupported
  | driver
  | timeout
  | internal
  deriving DecidableEq, Repr

/-- The name of a class in messages. -/
def FailureClass.label : FailureClass → String
  | malformed => "malformed"
  | unsupported => "unsupported"
  | driver => "driver"
  | timeout => "timeout"
  | internal => "internal"

/-- The stages at which a failure arises. -/
inductive FailureOrigin where
  | translate
  | evaluate
  | driver
  | facade
  deriving DecidableEq, Repr

/-- The name of a stage in messages. -/
def FailureOrigin.label : FailureOrigin → String
  | translate => "translate"
  | evaluate => "evaluate"
  | driver => "driver"
  | facade => "facade"

/-- A classified failure. -/
structure Failure where
  kind : FailureClass
  origin : FailureOrigin
  message : String
  deriving DecidableEq

/-- Why a driver did not answer a query. -/
inductive DriverError where
  | execution (query message : String)
  | timeout (query : String)
  | unavailable (message : String)
  deriving DecidableEq

/-- The message of a driver's error. -/
def DriverError.message : DriverError → String
  | execution query message => "query failed: " ++ message ++ " (query: " ++ query ++ ")"
  | timeout query => "query timed out: " ++ query
  | unavailable message => "driver unavailable: " ++ message

namespace Failure

/-- The message with the stage and class before it. -/
def described (f : Failure) : String :=
  f.origin.label ++ ":" ++ f.kind.label ++ ": " ++ f.message

def isTimeout (f : Failure) : Bool := f.kind == .timeout

/-- The deadline passed, after the given number of milliseconds. -/
def deadline (elapsed : Nat) : Failure :=
  ⟨.timeout, .evaluate,
    "distance computation exceeded its deadline after " ++ toString elapsed ++ "ms"⟩

/-- No rows were given and the condition names no table to fetch them from. -/
def noProbe (condition : String) : Failure :=
  ⟨.unsupported, .facade, "cannot derive a probe query for condition: " ++ condition⟩

/-- A callback stopped the calculation by a panic. -/
def panicked (message : String) : Failure :=
  ⟨.internal, .driver, "driver panicked: " ++ message⟩

/-- The condition text has no target. -/
def ofTarget (e : TargetError) : Failure :=
  ⟨if e.isMalformed then .malformed else .unsupported, .translate, e.message⟩

/-- The failure of a query that the calculation depends on. -/
def ofDriver (e : DriverError) : Failure :=
  match e with
  | .timeout _ => ⟨.timeout, .driver, e.message⟩
  | _ => ⟨.driver, .driver, e.message⟩

end Failure

end BranchDistance
