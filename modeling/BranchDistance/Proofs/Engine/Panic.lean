import BranchDistance.Proofs.Engine.Probe
import BranchDistance.Proofs.Evaluate.Panic

/-!
# Panics in a calculation

A sink may panic at every event that a calculation tells, and a driver at every call that it
receives.  Only a panic at the last event leaves the calculation; each other one has a place where
it stops, and there it is a failure of its own class (`containment`).
-/

namespace BranchDistance

namespace Engine

/-! ### Drivers that panic -/

section Contained

variable {setting setting' : Setting}

theorem overRows_of_agrees (h : setting.Agrees setting') (target : Target) (rows : List Row) :
    overRows setting target rows = overRows setting' target rows :=
  relates_overRows target h.relates rows

theorem judge_contained (setting : Setting) (driver : Driver) (text : String)
    (given : Option (List Row)) (target : Target) :
    judge setting.contained driver.contained text given target =
      judge setting driver text given target := by
  have hcandidates : candidates setting.contained driver.contained text target given =
      candidates setting driver text target given := by
    cases given with
    | some rows => rfl
    | none =>
      unfold candidates
      rw [show setting.contained.ask driver.contained = setting.ask driver from
        funext fun query => setting.ask_contained driver query]
      rfl
  rw [judge_eq, judge_eq, hcandidates]
  exact congrArg _ (funext fun rows => overRows_of_agrees setting.agrees_contained target rows)

/-- A driver that panics is as good as one that answers by an error. -/
theorem calculate_contained (engine : Engine) (driver : Driver) (text : String)
    (rows : Option (List Row)) :
    engine.calculate driver.contained text rows = engine.calculate driver text rows := by
  have hattempt (target : Except TargetError Target) (event : Option Event) :
      attempt (engine.setting driver.contained (.ofText text)) driver.contained text rows target
        event = attempt (engine.setting driver (.ofText text)) driver text rows target event := by
    rw [attempt_eq, attempt_eq]
    cases target with
    | error e => rfl
    | ok t =>
      have hjudge := judge_contained (engine.setting driver (.ofText text)) driver text rows t
      exact congrArg
        (fun r => tellLookup (engine.setting driver (.ofText text)) event >>= fun _ => r) hjudge
  unfold calculate
  dsimp only
  rw [hattempt]
  rfl

end Contained

/-! ### Containment -/

/-- What panics do to a calculation that tells the events `front` and `last`. -/
structure Containment (engine : Engine) (driver : Driver) (text : String)
    (rows : Option (List Row)) (front : List Event) (last : Event) : Prop where
  /-- The events are told in this order, and only the last one closes the calculation. -/
  events : (engine.calculate driver text rows).trace.events = front ++ [last]
  isClosing_last : last.isClosing = true
  isClosing_front : ∀ e ∈ front, e.isClosing = false
  /-- A panic leaves the calculation exactly if the sink panics at the last event. -/
  escapes : (engine.calculate driver text rows).verdict = none ↔
    ∃ panic, engine.observer.toSink.panic? last = some panic
  /-- A calculation that returns has failed exactly if this is what the last event says. -/
  failed : ∀ v, (engine.calculate driver text rows).verdict = some v →
    (v.failed = true ↔ ∃ kind, last = .failed kind)
  failure : ∀ v, (engine.calculate driver text rows).verdict = some v → v.failed = true →
    v = ⟨.infinite, 0, true⟩
  /-- A panic of the sink at an event before is an internal failure, and nothing else is one. -/
  internal : (∃ e ∈ front, ∃ panic, engine.observer.toSink.panic? e = some panic) ↔
    last = .failed .internal
  /-- A panic of the driver in the probe is a failure of the driver, unless it comes too late. -/
  probe : rows = none → ∀ query budget later,
    (engine.calculate driver text rows).trace.calls = .execute query budget :: later →
    (driver.execute [] query budget).answer = .panic →
    last = .failed
      (if (Deadline.mk engine.config.timeout?).isExpired (driver.execute [] query budget).latency
        then .timeout else .driver)
  /-- Nothing but the probe makes a failure of the driver. -/
  onlyProbe : last = .failed .driver → rows = none ∧ ∃ query budget later e,
    (engine.calculate driver text rows).trace.calls = .execute query budget :: later ∧
      (driver.execute [] query budget).answer.read query = .error e
  /-- A panic of the driver in any query is as good as an error that it answers. -/
  asError : engine.calculate driver.contained text rows = engine.calculate driver text rows
  /-- A panic of the driver in a subquery makes the leaf invalid, unless it comes too late. -/
  leaf : ∀ (scope : Scope) (c : Condition) (kind : QueryKind) (query : String) (p : Progress),
    let setting := engine.setting driver (.ofText text)
    let late := (setting.answered driver query (Run.told p (.query kind))).elapsed
    c.subquery? scope = some (kind, query) →
    setting.deadline.isExpired p.elapsed = false →
    setting.sink.panic? (.query kind) = none →
    (setting.replyTo driver query (Run.told p (.query kind))).answer = .panic →
    ((setting.outcome scope c).run p).1 =
      if setting.deadline.isExpired late then .error (.deadline late) else .ok .invalid

theorem closing_eq_failed {result : Except Failure Verdict} {kind : FailureClass} :
    closing result = .failed kind ↔ (Run.failure? result).map Failure.kind = some kind := by
  cases result with
  | ok v => simp [closing, Run.failure?]
  | error f => simp [closing, Run.failure?]

/-- Panics are contained: of all the panics of a sink and a driver only one of the sink at the last
event leaves a calculation. -/
theorem containment (engine : Engine) (driver : Driver) (text : String)
    (rows : Option (List Row)) :
    ∃ front last, Containment engine driver text rows front last := by
  have hresult := @returns_attempt (engine.setting driver (.ofText text)) driver text
    (engine.target? text).1 (engine.target? text).2.1 rows
    { given := engine.given, pauses := engine.pauses }
  obtain ⟨-, hevents, ⟨dumps, hcalls, -⟩, hverdict⟩ := engine.calculate_closing driver text rows
  obtain ⟨hfront, hinternal⟩ := engine.telling_attempted driver text rows
  change ∀ v, (engine.attempted driver text rows).1 = .ok v → v.failed = false at hresult
  -- what is returned stands for the result before the last event
  have hreturned (v : Verdict) (hv : (engine.calculate driver text rows).verdict = some v) :
      v = verdictOf (engine.attempted driver text rows).1 := by
    rw [hverdict] at hv
    split at hv
    · cases hv
    · cases hv
      rfl
  refine ⟨(engine.attempted driver text rows).2.trace.events,
    closing (engine.attempted driver text rows).1, ?_⟩
  constructor
  case events => exact hevents
  case isClosing_last => exact isClosing_closing _
  case isClosing_front => exact hfront
  case escapes =>
    rw [hverdict]
    cases engine.observer.toSink.panic? (closing (engine.attempted driver text rows).1) with
    | none => simp
    | some panic => simp
  case failed =>
    intro v hv
    rw [hreturned v hv]
    cases hattempted : (engine.attempted driver text rows).1 with
    | ok v => simp [closing, verdictOf, hresult v hattempted]
    | error f => simp [closing, verdictOf, Verdict.failure]
  case failure =>
    intro v hv hfailed
    rw [hreturned v hv] at hfailed ⊢
    cases hattempted : (engine.attempted driver text rows).1 with
    | ok v =>
      rw [hattempted] at hfailed
      exact absurd hfailed (by simp [verdictOf, hresult v hattempted])
    | error f => rfl
  case internal => exact hinternal.trans closing_eq_failed.symm
  case probe =>
    rintro rfl query budget later hfirst hpanic
    obtain ⟨later', hfirst'⟩ := firstCall_of_calculate hfirst
    exact closing_eq_failed.2 (kind_of_probe_panic hfirst' hpanic)
  case onlyProbe =>
    intro hlast
    obtain ⟨hrows, query, budget, later, e, hfirst, hanswer⟩ :=
      probe_of_kind (closing_eq_failed.1 hlast)
    refine ⟨hrows, query, budget, later ++ dumps, e, ?_, hanswer⟩
    rw [hcalls, hfirst, List.cons_append]
  case asError => exact engine.calculate_contained driver text rows
  case leaf =>
    intro scope c kind query p setting late hc hp hquiet hpanic
    exact Setting.run_outcome_of_panic rfl hc hp hquiet hpanic

/-- A panic in the probe that comes after the deadline is no failure of the driver. -/
theorem late_probe_panic :
    let engine : Engine := { config := { timeoutMillis := 200 } }
    let driver : Driver := { execute := fun _ _ _ => ⟨.panic, 500⟩, dumpState := fun _ => some "" }
    let calculation := engine.calculate driver "t.x = 1" none
    calculation.trace.calls.head? = some (.execute "SELECT * FROM t" (some 200)) ∧
      (driver.execute [] "SELECT * FROM t" (some 200)).answer = .panic ∧
      calculation.trace.events = [.cacheMiss, .query .probe, .failed .timeout] := by
  refine ⟨?_, rfl, ?_⟩ <;> decide +kernel

end Engine

end BranchDistance
