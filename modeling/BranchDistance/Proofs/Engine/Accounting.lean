import BranchDistance.Proofs.Engine.Course
import BranchDistance.Proofs.Engine.Session
import BranchDistance.Proofs.Metrics

/-!
# What calculations tell

The events of a calculation have a fixed order: the lookup, the probe, the subqueries, and one event
that closes it (`Engine.Tells`, `tells`).  The counters of a session add them up, so they say how
many calculations there were and what came of them (`counters_tally`).
-/

namespace BranchDistance

namespace Engine

/-- The event of the lookup of a text, if targets are kept. -/
def lookupEvents (engine : Engine) (text : String) : List Event :=
  if engine.config.keepTargets then
    [if (engine.cache.get? (.ofText text)).isSome then .cacheHit else .cacheMiss]
  else []

/-- The kinds of the queries of a calculation, of which those of the subqueries are given. -/
def queryKinds (engine : Engine) (text : String) (rows : Option (List Row))
    (kinds : List QueryKind) : List QueryKind :=
  (engine.probeQuery? text rows).toList.map (fun _ => .probe) ++ kinds

/-- What a calculation tells: its verdict, the kinds of its subqueries and its last event are
given. -/
structure Tells (engine : Engine) (driver : Driver) (text : String) (rows : Option (List Row))
    (v : Verdict) (kinds : List QueryKind) (last : Event) : Prop where
  verdict : (engine.calculate driver text rows).verdict = some v
  events : (engine.calculate driver text rows).trace.events =
    engine.lookupEvents text ++ (engine.queryKinds text rows kinds).map .query ++ [last]
  subqueries : ∀ kind ∈ kinds, kind ≠ .probe
  /-- The driver receives one query for each event of one, in the same order and for the purpose
  that is told. -/
  served : List.Forall₂ (fun kind i => (kind, i.query) ∈ engine.queries text)
    (engine.queryKinds text rows kinds) (engine.inquiries driver text rows)
  calculated : v.failed = false → last = .calculated v.rowsEvaluated
  failed : v.failed = true → v = .failure ∧ ∃ kind, last = .failed kind

section Calculate

variable (engine : Engine) (driver : Driver) (text : String) (rows : Option (List Row))

theorem toList_event_target? :
    (engine.target? text).2.1.toList = engine.lookupEvents text := by
  unfold lookupEvents
  split
  · next h =>
    rw [target?_of_keeps h, Cache.isHit_lookup]
    rfl
  · next h =>
    rw [target?_of_not_keeps h]
    rfl

variable {engine}

/-- A calculation tells its course. -/
theorem tells (hquiet : engine.IsQuiet) :
    ∃ v kinds last, engine.Tells driver text rows v kinds last := by
  obtain ⟨hverdict, hevents⟩ := calculate_quiet driver text rows hquiet
  obtain ⟨kinds, new, h, hkinds⟩ := account_attempted driver text rows hquiet
  have hfailed := @failed_verdictOf_attempted engine driver text rows
  refine ⟨_, kinds, closing (engine.attempted driver text rows).1, hverdict, ?events, hkinds,
    ?served, ?calculated, ?failed⟩
  case events =>
    rw [hevents, h.events, ← toList_event_target?]
    rfl
  case served =>
    rw [inquiries_eq, h.calls]
    exact h.served
  case calculated =>
    intro hreached
    cases hresult : (engine.attempted driver text rows).1 with
    | ok v => rfl
    | error f =>
      rw [hresult] at hreached
      cases hreached
  case failed =>
    intro hv
    obtain ⟨f, hf⟩ := hfailed.1 hv
    rw [hf]
    exact ⟨rfl, f.kind, rfl⟩

end Calculate

end Engine

/-! ### Counters -/

namespace Counters

/-- What some events add to the counters, and the verdicts of the calculations that told them. -/
structure Tally (keeps : Bool) (vs : List Verdict) (events : List Event) : Prop where
  closed : total calculations events + total failures events = vs.length
  lookups : keeps = true → total cacheHits events + total cacheMisses events = vs.length
  rows : total rowsEvaluated events = (vs.map (·.rowsEvaluated)).sum

namespace Tally

variable {keeps : Bool} {vs vs' : List Verdict} {events events' : List Event}

theorem nil (keeps : Bool) : Tally keeps [] [] := ⟨rfl, fun _ => rfl, rfl⟩

theorem append (h : Tally keeps vs events) (h' : Tally keeps vs' events') :
    Tally keeps (vs ++ vs') (events ++ events') where
  closed := by
    have hclosed := h.closed
    have hclosed' := h'.closed
    simp only [total_append, List.length_append]
    omega
  lookups hkeeps := by
    have hlookups := h.lookups hkeeps
    have hlookups' := h'.lookups hkeeps
    simp only [total_append, List.length_append]
    omega
  rows := by
    rw [total_append, h.rows, h'.rows, List.map_append, List.sum_append]

end Tally

/-- The sum of a counter of which the queries are no part. -/
theorem total_of_tells {engine : Engine} {driver : Driver} {text : String}
    {rows : Option (List Row)} {v : Verdict} {kinds : List QueryKind} {last : Event}
    (h : engine.Tells driver text rows v kinds last) {field : Counters → Nat}
    (hquery : ∀ kind, field (ofEvent (.query kind)) = 0) :
    total field (engine.calculate driver text rows).trace.events =
      total field (engine.lookupEvents text) + field (ofEvent last) := by
  have hzero : total field ((engine.queryKinds text rows kinds).map .query) = 0 :=
    total_eq_zero (List.forall_mem_map.2 fun kind _ => hquery kind)
  rw [h.events, total_append, total_append, hzero]
  simp

/-- The tally of one calculation. -/
theorem Tally.of_tells {engine : Engine} {driver : Driver} {text : String}
    {rows : Option (List Row)} {v : Verdict} {kinds : List QueryKind} {last : Event}
    (h : engine.Tells driver text rows v kinds last) :
    Tally engine.config.keepTargets [v] (engine.calculate driver text rows).trace.events := by
  have hlast : (ofEvent last).calculations + (ofEvent last).failures = 1 ∧
      (ofEvent last).rowsEvaluated = v.rowsEvaluated ∧
      (ofEvent last).cacheHits + (ofEvent last).cacheMisses = 0 := by
    cases hfailed : v.failed with
    | false => simp [h.calculated hfailed, ofEvent]
    | true =>
      obtain ⟨rfl, kind, rfl⟩ := h.failed hfailed
      simp [ofEvent, Verdict.failure]
  have hlookup {field : Counters → Nat} (hhit : field (ofEvent .cacheHit) = 0)
      (hmiss : field (ofEvent .cacheMiss) = 0) : total field (engine.lookupEvents text) = 0 := by
    unfold Engine.lookupEvents
    split
    · split <;> simp [hhit, hmiss]
    · rfl
  refine ⟨?_, fun hkeeps => ?_, ?_⟩
  · rw [total_of_tells h fun kind => by cases kind <;> rfl,
      total_of_tells h fun kind => by cases kind <;> rfl, hlookup rfl rfl, hlookup rfl rfl]
    simpa using hlast.1
  · have hone : total cacheHits (engine.lookupEvents text) +
        total cacheMisses (engine.lookupEvents text) = 1 := by
      unfold Engine.lookupEvents
      rw [if_pos hkeeps]
      split <;> rfl
    rw [total_of_tells h fun kind => by cases kind <;> rfl,
      total_of_tells h fun kind => by cases kind <;> rfl, List.length_singleton]
    omega
  · rw [total_of_tells h fun kind => by cases kind <;> rfl, hlookup rfl rfl]
    simpa using hlast.2.1

end Counters

namespace Engine

/-- The tally of the calculations of a session. -/
theorem tally_calculations {engine : Engine} (hquiet : engine.IsQuiet) (actions : List Action) :
    ∃ vs, (engine.calculations actions).map (·.verdict) = vs.map some ∧
      Counters.Tally engine.config.keepTargets vs
        ((engine.calculations actions).flatMap (·.trace.events)) := by
  have hsingle : ∀ c ∈ engine.calculations actions, ∃ v, c.verdict = some v ∧
      Counters.Tally engine.config.keepTargets [v] c.trace.events := by
    refine forall_calculations (fun e hconfig hobserver driver text rows => ?_) actions
    have hquiet' : e.IsQuiet := by rwa [IsQuiet, hobserver]
    obtain ⟨v, kinds, last, h⟩ := tells driver text rows hquiet'
    exact ⟨v, h.verdict, hconfig ▸ .of_tells h⟩
  generalize engine.calculations actions = done at hsingle ⊢
  induction done with
  | nil => exact ⟨[], rfl, .nil _⟩
  | cons c rest ih =>
    obtain ⟨⟨v, hv, htally⟩, hrest⟩ := List.forall_mem_cons.1 hsingle
    obtain ⟨vs, hvs, htallies⟩ := ih hrest
    exact ⟨v :: vs, by simp [hv, hvs], htally.append htallies⟩

/-- A calculation tells its course, and the counters of a new engine say how many calculations there
were, how they were closed, and how many rows they evaluated. -/
theorem told_and_counted :
    (∀ (engine : Engine) (driver : Driver) (text : String) (rows : Option (List Row)),
      engine.IsQuiet → ∃ v kinds last, engine.Tells driver text rows v kinds last) ∧
    ∀ (config : Config) (pauses : List Nat) (actions : List Action),
      let engine : Engine := { config, pauses }
      let done := engine.calculations actions
      let report := (engine.after actions).report
      done.length < 2 ^ 64 →
        ∃ vs : List Verdict, done.map (·.verdict) = vs.map some ∧
          report.calculations + report.failures = done.length ∧
          (config.keepTargets = true → report.cacheHits + report.cacheMisses = done.length) ∧
          report.rowsEvaluated = min countMax (vs.map (·.rowsEvaluated)).sum ∧
          report.timeouts ≤ report.failures := by
  refine ⟨fun engine driver text rows => tells driver text rows, ?_⟩
  intro config pauses actions engine done report hlength
  obtain ⟨vs, hvs, htally⟩ : ∃ vs, done.map (·.verdict) = vs.map some ∧
      Counters.Tally config.keepTargets vs (done.flatMap (·.trace.events)) :=
    @tally_calculations engine (fun _ => rfl) actions
  have hlength' : done.length = vs.length := by simpa using congrArg List.length hvs
  have hmax : countMax = 2 ^ 64 - 1 := rfl
  have hreport : report =
      ({} : Counters).recordAll (done.flatMap (·.trace.events)) := by
    have hcounters := engine.counters_after actions
    unfold report Engine.report
    rw [observer_after]
    exact hcounters
  refine ⟨vs, hvs, ?_⟩
  rw [hreport, Counters.isField_calculations.recordAll, Counters.isField_failures.recordAll,
    Counters.isField_cacheHits.recordAll, Counters.isField_cacheMisses.recordAll,
    Counters.isField_rowsEvaluated.recordAll, Counters.isField_timeouts.recordAll, htally.rows]
  have hclosed := htally.closed
  have htimeouts := Counters.total_timeouts_le (done.flatMap (·.trace.events))
  refine ⟨by omega, fun hkeeps => ?_, rfl, by omega⟩
  have hlookups := htally.lookups hkeeps
  omega

/-- A session with a result, a probe that is given up, a condition without a probe, and a text that
is no condition. -/
theorem told_and_counted_session :
    let engine : Engine := { config := {} }
    let driver : Driver := {
      execute := fun _ query _ => ⟨.error (.timeout query), 3⟩
      dumpState := fun _ => none }
    let actions : List Action := [.calculate driver "SELECT * FROM t" (some [.empty]), .report,
      .calculate driver " SELECT * FROM t" none, .clearCache, .calculate driver "x = 1" none,
      .calculate driver "x =" none]
    let report := (engine.after actions).report
    engine.IsQuiet ∧ (∃ v kinds last, engine.Tells driver "SELECT * FROM t" none v kinds last) ∧
      (engine.calculations actions).length = 4 ∧ report.calculations + report.failures = 4 ∧
      report.cacheHits + report.cacheMisses = 4 ∧ report.timeouts ≤ report.failures := by
  intro engine driver actions report
  have hquiet : engine.IsQuiet := fun _ => rfl
  have hlength : (engine.calculations actions).length = 4 := rfl
  obtain ⟨vs, -, hclosed, hlookups, -, htimeouts⟩ :=
    told_and_counted.2 {} [] actions (by rw [hlength]; decide)
  exact ⟨hquiet, told_and_counted.1 engine driver _ none hquiet, hlength, hclosed.trans hlength,
    (hlookups rfl).trans hlength, htimeouts⟩

end Engine

end BranchDistance
