import BranchDistance.Binary64
import BranchDistance.Count
import BranchDistance.Failure

/-!
# Metrics

A calculation tells what it does by events.  Counters keep sums of what the events tell; a counter
that has reached the greatest count stays there.
-/

namespace BranchDistance

/-- What a query to the driver is for. -/
inductive QueryKind where
  /-- The candidate rows. -/
  | probe
  /-- The right side of `IN`. -/
  | subselect
  /-- The operand of `EXISTS`. -/
  | exists
  deriving DecidableEq, Repr

/-- What a calculation tells about itself. -/
inductive Event where
  | cacheHit
  | cacheMiss
  | query (kind : QueryKind)
  /-- The calculation came to a result after the given number of rows. -/
  | calculated (rows : Nat)
  | failed (kind : FailureClass)
  deriving DecidableEq, Repr

/-- The sums that are kept. -/
structure Counters where
  calculations : Nat := 0
  rowsEvaluated : Nat := 0
  cacheHits : Nat := 0
  cacheMisses : Nat := 0
  probeQueries : Nat := 0
  subqueries : Nat := 0
  failures : Nat := 0
  timeouts : Nat := 0
  deriving DecidableEq, Repr

namespace Counters

/-- What one event adds to each counter. -/
def ofEvent : Event → Counters
  | .cacheHit => { cacheHits := 1 }
  | .cacheMiss => { cacheMisses := 1 }
  | .query .probe => { probeQueries := 1 }
  | .query .subselect => { subqueries := 1 }
  | .query .exists => { subqueries := 1 }
  | .calculated rows => { calculations := 1, rowsEvaluated := rows }
  | .failed kind => { failures := 1, timeouts := if kind = .timeout then 1 else 0 }

/-- The sums of two sets of counters. -/
def add (a b : Counters) : Counters where
  calculations := addCounts a.calculations b.calculations
  rowsEvaluated := addCounts a.rowsEvaluated b.rowsEvaluated
  cacheHits := addCounts a.cacheHits b.cacheHits
  cacheMisses := addCounts a.cacheMisses b.cacheMisses
  probeQueries := addCounts a.probeQueries b.probeQueries
  subqueries := addCounts a.subqueries b.subqueries
  failures := addCounts a.failures b.failures
  timeouts := addCounts a.timeouts b.timeouts

/-- The counters after one more event. -/
def record (counters : Counters) (event : Event) : Counters := counters.add (ofEvent event)

/-- The counters after several more events. -/
def recordAll (counters : Counters) (events : List Event) : Counters :=
  events.foldl record counters

/-- The part of the lookups that were hits; there is none without a lookup. -/
def hitRatio? (counters : Counters) : Option Float :=
  let lookups := addCounts counters.cacheHits counters.cacheMisses
  if lookups = 0 then none
  else some (Binary64.ofInt counters.cacheHits / Binary64.ofInt lookups)

end Counters

end BranchDistance
