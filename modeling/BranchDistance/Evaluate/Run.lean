import BranchDistance.Config
import BranchDistance.Deadline
import BranchDistance.Driver
import BranchDistance.Log
import BranchDistance.Metrics

/-!
# Runs

An evaluation calls the driver, tells events to a sink and writes log records.  A run carries all
of this as a value: the time that has passed, the trace of what has been done, and the warnings
that have been given.  A run that is given up keeps them.

Time passes while the driver answers, and in pauses, which are what an engine itself takes before
it looks at its rows and for each of them.  How long the pauses are is given with the state.  Apart
from this no time passes: over one row only a reply can reach the deadline.
-/

namespace BranchDistance

/-- A panic of a sink, with its message if it has one. -/
structure Panic where
  message : Option String

/-- The text of a panic. -/
def Panic.text (p : Panic) : String := p.message.getD "non-string panic payload"

/-- Receives the events.  It may panic at an event, after taking it. -/
structure Sink where
  panic? : Event → Option Panic

/-- The sink that never panics. -/
def Sink.quiet : Sink := ⟨fun _ => none⟩

/-- What has been done, each part in the order of time. -/
structure Trace where
  calls : List Call := []
  events : List Event := []
  records : List Record := []

/-- The warnings that have been given, and for which condition texts. -/
abbrev Given := List (Warning × Fingerprint)

/-- How far a run has come. -/
structure Progress where
  /-- The milliseconds since the start. -/
  elapsed : Nat := 0
  trace : Trace := {}
  given : Given := []
  /-- The milliseconds that the coming pauses take; no pause after these takes time. -/
  pauses : List Nat := []

/-- A step of a run, which goes on with a result or gives the run up. -/
abbrev Run (α : Type) := ExceptT Failure (StateM Progress) α

/-- What a run works with. -/
structure Setting where
  config : Config
  /-- Absent if no queries can be asked. -/
  driver : Option Driver := none
  sink : Sink := .quiet
  deadline : Deadline := .unbounded
  /-- The condition text for warnings.  Without it every failure is warned of. -/
  subject : Option Subject := none

namespace Run

/-- Adds a call to the trace. -/
def noteCall (call : Call) : Run Unit :=
  modify fun p => { p with trace := { p.trace with calls := p.trace.calls ++ [call] } }

/-- Adds a record to the trace. -/
def log (record : Record) : Run Unit :=
  modify fun p => { p with trace := { p.trace with records := p.trace.records ++ [record] } }

/-- Tells an event to a sink; its panic ends the run. -/
def tell (sink : Sink) (event : Event) : Run Unit := do
  modify fun p => { p with trace := { p.trace with events := p.trace.events ++ [event] } }
  match sink.panic? event with
  | some panic => throw (.panicked panic.text)
  | none => pure ()

/-- Whether a warning about a subject is due, which it then no longer is.  Without a subject it
always is. -/
def claim (kind : Warning) : Option Subject → Run Bool
  | none => pure true
  | some s => do
    let given := (← get).given
    if given.contains (kind, s.fingerprint) then return false
    else
      modify fun p => { p with given := (kind, s.fingerprint) :: given }
      return true

/-- Lets the next pause pass. -/
def pause : Run Unit :=
  modify fun p => { p with elapsed := p.elapsed + p.pauses.headD 0, pauses := p.pauses.tail }

/-- Asks a driver for its state. -/
def dumpState (driver : Driver) : Run (Option String) := do
  let state := driver.dumpState (← get).trace.calls
  noteCall .dumpState
  return state

end Run

namespace Setting

variable (setting : Setting)

/-- Gives the run up if the deadline is over. -/
def check : Run Unit := do
  let elapsed := (← get).elapsed
  if setting.deadline.isExpired elapsed then throw (.deadline elapsed)

/-- Asks a driver a query within what is left of the time.  A timeout gives the run up, a panic of
the driver counts as its error. -/
def ask (driver : Driver) (query : String) : Run (Except DriverError (List Row)) := do
  setting.check
  let now ← get
  let budget := setting.deadline.remaining? now.elapsed
  let reply := driver.execute now.trace.calls query budget
  Run.noteCall (.execute query budget)
  modify fun p => { p with elapsed := p.elapsed + reply.latency }
  match reply.answer with
  | .error (.timeout _) => throw (.deadline (← get).elapsed)
  | .error e => setting.check; return .error e
  | .panic => setting.check; return .error (.execution query "driver panicked")
  | .rows rows => setting.check; return .ok rows

/-- Warns of a failed subquery. -/
def warnOfSubquery (query : String) (e : DriverError) (state : Run String) : Run Unit := do
  if ← Run.claim .subqueryFailed setting.subject then
    Run.log (.warning .subqueryFailed setting.subject (some query) e.message (← state))

/-- The rows of a subquery; absent if it failed. -/
def subquery (kind : QueryKind) (query : String) : Run (Option (List Row)) := do
  match setting.driver with
  | none =>
    setting.warnOfSubquery query Driver.unattachedError (pure "")
    return none
  | some driver =>
    setting.check
    Run.tell setting.sink (.query kind)
    match ← setting.ask driver query with
    | .ok rows => return some rows
    | .error e =>
      setting.warnOfSubquery query e (return (← Run.dumpState driver).getD "")
      return none

end Setting

end BranchDistance
