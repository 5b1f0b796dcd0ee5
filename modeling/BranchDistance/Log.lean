import BranchDistance.Failure
import BranchDistance.Fingerprint
import BranchDistance.Text.Quoted

/-!
# Log records

Failures are logged as structured records.  Each kind of warning is given at most once for a
condition text in a session.
-/

namespace BranchDistance

/-- The condition text that a calculation is about. -/
structure Subject where
  text : String
  fingerprint : Fingerprint

/-- The subject with a given text. -/
def Subject.ofText (text : String) : Subject := ⟨text, .ofText text⟩

/-- The kinds of warning. -/
inductive Warning where
  | subqueryFailed
  | calculateTimeout
  | translateFailed
  | driverFailed
  | calculateFailed
  deriving DecidableEq, Repr

namespace Warning

/-- The name of a warning. -/
def name : Warning → String
  | subqueryFailed => "subquery_failed"
  | calculateTimeout => "calculate_timeout"
  | translateFailed => "translate_failed"
  | driverFailed => "driver_failed"
  | calculateFailed => "calculate_failed"

/-- The warning that a failed calculation gives. -/
def ofFailure (f : Failure) : Warning :=
  if f.isTimeout then calculateTimeout
  else match f.origin with
    | .translate => translateFailed
    | .driver => driverFailed
    | .evaluate => calculateFailed
    | .facade => calculateFailed

end Warning

/-- How urgent a record is. -/
inductive Level where
  | warn
  | debug
  deriving DecidableEq, Repr

/-- The name of a level. -/
def Level.name : Level → String
  | warn => "WARN"
  | debug => "DEBUG"

/-- A log record. -/
inductive Record where
  /-- A warning about a condition text, if there is one, and perhaps about a query, with the error
  and the state of the driver. -/
  | warning (kind : Warning) (subject : Option Subject) (query : Option String)
      (error state : String)
  /-- An evaluation outside of any session was given up. -/
  | aborted (f : Failure)

namespace Record

/-- How urgent a record is. -/
def level : Record → Level
  | warning .. => .warn
  | aborted _ => .debug

/-- The text of a record. -/
def text : Record → String
  | warning kind subject query error state =>
    let about := match subject with
      | some s => " condition=" ++ Text.quoted s.text ++ " fp=" ++ s.fingerprint.short
      | none => ""
    let cause := match query with
      | some q => " query=" ++ Text.quoted q
      | none => ""
    "event=" ++ kind.name ++ about ++ cause ++ " error=" ++ error ++ " state=" ++ Text.quoted state
  | aborted f => "event=evaluation_aborted error=" ++ f.described

end Record

end BranchDistance
