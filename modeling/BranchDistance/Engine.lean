import BranchDistance.Cache
import BranchDistance.Evaluate.Condition

/-!
# The engine

An engine calculates the distance of condition texts in one session.  Every text has an answer: what
fails is counted, warned of once, and infinitely far.

The time of a calculation is that of its driver and of its pauses: one when the rows are there, and
one after each row.  So the deadline may be over when the next row begins, and after the last row,
where nobody looks at it any more.
-/

namespace BranchDistance

/-- The distance of a condition text and how it was found. -/
structure Verdict where
  distance : Distance
  rowsEvaluated : Nat
  /-- Whether the distance only stands for a failure. -/
  failed : Bool
  deriving DecidableEq

namespace Verdict

/-- The verdict of a calculation that failed. -/
def failure : Verdict := ⟨.infinite, 0, true⟩

/-- The verdict without candidate rows. -/
def noRows : Verdict := ⟨.infinite, 0, false⟩

end Verdict

/-- Who receives the events of an engine. -/
inductive Observer where
  /-- The counters of the engine. -/
  | counters
  /-- A sink that keeps no counters. -/
  | sink (s : Sink)

/-- The sink of an observer. -/
def Observer.toSink : Observer → Sink
  | counters => .quiet
  | sink s => s

/-- An engine in the course of a session. -/
structure Engine where
  config : Config
  observer : Observer := .counters
  cache : Cache := .empty
  given : Given := []
  counters : Counters := {}
  /-- The milliseconds of the pauses to come. -/
  pauses : List Nat := []

namespace Engine

/-- The counters; all are zero if the engine keeps none. -/
def report (engine : Engine) : Counters :=
  match engine.observer with
  | .counters => engine.counters
  | .sink _ => {}

/-- Forgets the targets and the warnings of the session. -/
def reset (engine : Engine) : Engine := { engine with cache := engine.cache.clear, given := [] }

/-- Forgets the targets of the session. -/
def clearCache (engine : Engine) : Engine := { engine with cache := engine.cache.clear }

/-- The target of a text, the event that a lookup is, and the cache after it. -/
def target? (engine : Engine) (text : String) :
    Except TargetError Target × Option Event × Cache :=
  if engine.config.keepTargets then
    let (lookup, cache) := engine.cache.lookup text
    (lookup.result.map (·.target), some (if lookup.isHit then .cacheHit else .cacheMiss), cache)
  else (Target.ofText? text, none, engine.cache)

/-- The least distance of a condition over some rows, and the number of rows that were evaluated.  A
row that satisfies the condition is the last. -/
def best (setting : Setting) (aliases : Aliases) (c : Condition) (least : Distance) (count : Nat) :
    List Row → Run Verdict
  | [] => pure ⟨least, count, false⟩
  | row :: rest => do
    let o ← setting.outcome ⟨row, aliases⟩ c
    Run.pause
    let least := min least o.distance
    if least.isZero then return ⟨least, count + 1, false⟩
    else best setting aliases c least (count + 1) rest

/-- The candidate rows: those that are given, or the answer to the target's query. -/
def candidates (setting : Setting) (driver : Driver) (text : String) (target : Target) :
    Option (List Row) → Run (List Row)
  | some rows => pure rows
  | none => do
    match target.probeQuery with
    | none => throw (.noProbe text)
    | some query =>
      setting.check
      Run.tell setting.sink (.query .probe)
      match ← setting.ask driver query with
      | .ok rows => return rows
      | .error e => throw (.ofDriver e)

/-- The verdict on a target. -/
def judge (setting : Setting) (driver : Driver) (text : String) (given : Option (List Row))
    (target : Target) : Run Verdict := do
  let rows ← candidates setting driver text target given
  Run.pause
  if rows.isEmpty then return .noRows
  else match target.condition with
    | none => return ⟨.zero, 1, false⟩
    | some c => best setting target.aliases c .infinite 0 rows

/-- The setting of a calculation. -/
def setting (engine : Engine) (driver : Driver) (subject : Subject) : Setting where
  config := engine.config
  driver := driver
  sink := engine.observer.toSink
  deadline := ⟨engine.config.timeout?⟩
  subject := subject

/-- The calculation up to its last event. -/
def attempt (setting : Setting) (driver : Driver) (text : String) (rows : Option (List Row))
    (target : Except TargetError Target) (event : Option Event) : Run Verdict := do
  match event with
  | some e => Run.tell setting.sink e
  | none => pure ()
  match target with
  | .ok t => judge setting driver text rows t
  | .error e => throw (.ofTarget e)

/-- Warns of a failed calculation. -/
def warn (driver : Driver) (subject : Subject) (f : Failure) : Run Unit := do
  let kind := Warning.ofFailure f
  if ← Run.claim kind (some subject) then
    let state := (← Run.dumpState driver).getD "<dump_state panicked>"
    Run.log (.warning kind (some subject) none f.described state)

/-- Tells the last event of a calculation and warns of a failure. -/
def close (setting : Setting) (driver : Driver) (subject : Subject)
    (result : Except Failure Verdict) : Run Verdict := do
  match result with
  | .ok verdict =>
    Run.tell setting.sink (.calculated verdict.rowsEvaluated)
    return verdict
  | .error f =>
    Run.tell setting.sink (.failed f.kind)
    warn driver subject f
    return .failure

/-- What a calculation gives: the verdict, what was done, the milliseconds that it took, and the
engine after it. -/
structure Calculation where
  /-- Absent if the sink panicked at the last event. -/
  verdict : Option Verdict
  trace : Trace
  elapsed : Nat
  engine : Engine

/-- The distance of a condition text over the given rows, or over those that its target's query
yields. -/
def calculate (engine : Engine) (driver : Driver) (text : String) (rows : Option (List Row)) :
    Calculation :=
  let subject := Subject.ofText text
  let setting := engine.setting driver subject
  let (target, event, cache) := engine.target? text
  let (result, progress) :=
    (attempt setting driver text rows target event).run
      { given := engine.given, pauses := engine.pauses }
  let (verdict, progress) := (close setting driver subject result).run progress
  { verdict := verdict.toOption
    trace := progress.trace
    elapsed := progress.elapsed
    engine :=
      { engine with
        cache
        given := progress.given
        pauses := progress.pauses
        counters := engine.counters.recordAll progress.trace.events } }

/-- The written form of an engine, with its settings and the number of targets that it keeps. -/
def describe (engine : Engine) : String :=
  let c := engine.config
  let mode := match c.textMode with
    | .leftAlignment => "LeftAlignment"
    | .constant => "Constant"
  "SqlDistanceEngine \x7b config: DistanceConfig \x7b not_equal_penalty: " ++
    Decimal.taggedText c.penalty ++ ", boundary_epsilon: " ++ Decimal.taggedText c.epsilon ++
    ", string_distance: " ++ mode ++ ", timeout_ms: " ++ toString c.timeoutMillis ++
    ", cache_conditions: " ++ (if c.keepTargets then "true" else "false") ++
    " \x7d, cached_conditions: " ++ toString engine.cache.size ++ ", .. \x7d"

end Engine

end BranchDistance
