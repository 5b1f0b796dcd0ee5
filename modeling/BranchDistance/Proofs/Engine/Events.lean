import BranchDistance.Engine
import BranchDistance.Proofs.Evaluate.Meaning

/-!
# The events of a calculation

A calculation tells some events while it goes on and one when it is closed.

* While it goes on it tells no closing event, and it fails with the class of an internal failure
  exactly if the sink panics at one of the events (`telling_attempt`).
* The event that closes it is the last, and decides what is returned (`calculate_closing`).
* A verdict that is reached is not a failed one (`returns_attempt`).
-/

namespace BranchDistance

variable {α β : Type}

/-- Whether an event closes a calculation. -/
def Event.isClosing : Event → Bool
  | .cacheHit => false
  | .cacheMiss => false
  | .query _ => false
  | .calculated _ => true
  | .failed _ => true

/-! ### Laws of events and failures -/

namespace Law

/-- No closing event is told, and the class of the failure says whether the sink panics at one of
the events. -/
def telling (sink : Sink) : Law where
  Holds p f q := ∃ new, q.trace.events = p.trace.events ++ new ∧
    (∀ e ∈ new, e.isClosing = false) ∧
    ((∃ e ∈ new, ∃ panic, sink.panic? e = some panic) ↔ f.map Failure.kind = some .internal)
  refl p := ⟨[], by simp⟩
  trans := by
    rintro p q r f ⟨new, hq, hnew, hpanic⟩ ⟨new', hr, hnew', hpanic'⟩
    refine ⟨new ++ new', by rw [hr, hq, List.append_assoc], ?_, ?_⟩
    · intro e he
      rcases List.mem_append.1 he with h | h
      · exact hnew e h
      · exact hnew' e h
    · -- a run that goes on has met no panic, so only the later events count
      have hcalm : ¬ ∃ e ∈ new, ∃ panic, sink.panic? e = some panic := by simp [hpanic]
      rw [← hpanic']
      refine ⟨?_, fun ⟨e, he, h⟩ => ⟨e, List.mem_append_right new he, h⟩⟩
      rintro ⟨e, he, h⟩
      rcases List.mem_append.1 he with he | he
      · exact absurd ⟨e, he, h⟩ hcalm
      · exact ⟨e, he, h⟩

/-- No failure is of a given class. -/
def avoiding (kind : FailureClass) : Law where
  Holds _ f _ := f.map Failure.kind ≠ some kind
  refl _ := by simp
  trans _ h := h

/-- Nothing is told, and only the deadline gives the run up. -/
def silent : Law where
  Holds p f q := q.trace.events = p.trace.events ∧ (f = none ∨ ∃ t, f = some (.deadline t))
  refl _ := ⟨rfl, .inl rfl⟩
  trans h h' := ⟨h'.1.trans h.1, h'.2⟩

theorem silent_check (setting : Setting) : silent.Covers setting.check := by
  intro p
  rw [Setting.run_check]
  split
  · exact ⟨rfl, .inr ⟨_, rfl⟩⟩
  · exact ⟨rfl, .inl rfl⟩

theorem silent_ask (setting : Setting) (driver : Driver) (query : String) :
    silent.Covers (setting.ask driver query) := by
  intro p
  rw [Setting.run_ask]
  split
  · exact ⟨rfl, .inr ⟨_, rfl⟩⟩
  · dsimp only
    split
    · exact ⟨rfl, .inr ⟨_, rfl⟩⟩
    · exact ⟨rfl, .inl rfl⟩

theorem silent_claim (kind : Warning) (subject : Option Subject) :
    silent.Covers (Run.claim kind subject) := by
  intro p
  obtain ⟨due, given, h⟩ := Run.run_claim kind subject p
  rw [h]
  exact ⟨rfl, .inl rfl⟩

theorem silent_dumpState (driver : Driver) : silent.Covers (Run.dumpState driver) :=
  fun _ => ⟨rfl, .inl rfl⟩

theorem silent_log (record : Record) : silent.Covers (Run.log record) := fun _ => ⟨rfl, .inl rfl⟩

theorem silent_pause : silent.Covers Run.pause := fun _ => ⟨rfl, .inl rfl⟩

variable {law : Law}

/-- A law that allows silence covers an evaluation if it covers the queries that are told. -/
theorem CoversSteps.of_silent (hsilent : ∀ {p f q}, silent.Holds p f q → law.Holds p f q)
    {setting : Setting} (htell : ∀ kind, law.Covers (Run.tell setting.sink (.query kind))) :
    law.CoversSteps setting where
  check p := hsilent (silent_check setting p)
  tell := htell
  ask driver _ query p := hsilent (silent_ask setting driver query p)
  claim p := hsilent (silent_claim _ _ p)
  dumpState driver _ p := hsilent (silent_dumpState driver p)
  log record p := hsilent (silent_log record p)
  pause p := hsilent (silent_pause p)

theorem telling_of_silent {sink : Sink} {p q : Progress} {f : Option Failure}
    (h : silent.Holds p f q) : (telling sink).Holds p f q := by
  obtain ⟨hevents, rfl | ⟨t, rfl⟩⟩ := h
  · exact ⟨[], by simp [hevents]⟩
  · exact ⟨[], by simp [hevents, Failure.deadline]⟩

theorem avoiding_of_silent {p q : Progress} {f : Option Failure} (h : silent.Holds p f q) :
    (avoiding .driver).Holds p f q := by
  obtain ⟨-, rfl | ⟨t, rfl⟩⟩ := h <;> simp [avoiding, Failure.deadline]

theorem telling_tell (sink : Sink) {event : Event} (h : event.isClosing = false) :
    (telling sink).Covers (Run.tell sink event) := by
  intro p
  rw [Run.run_tell]
  cases hpanic : sink.panic? event with
  | none => exact ⟨[event], rfl, by simpa using h, by simp [hpanic, Run.failure?]⟩
  | some panic =>
    exact ⟨[event], rfl, by simpa using h,
      by simp [hpanic, Run.failure?, Failure.panicked]⟩

theorem avoiding_tell (sink : Sink) (event : Event) :
    (avoiding .driver).Covers (Run.tell sink event) := by
  intro p
  rw [Run.run_tell]
  split <;> simp [avoiding, Run.failure?, Failure.panicked]

end Law

/-! ### The part before the last event -/

/-- The subqueries of the condition of a target. -/
def Target.subqueries (target : Target) : List (QueryKind × String) :=
  match target.condition with
  | none => []
  | some c => c.subqueries

namespace Engine

variable {law : Law} {setting : Setting} {driver : Driver} {text : String}

/-- The verdict on a target over its candidate rows. -/
def overRows (setting : Setting) (target : Target) (rows : List Row) : Run Verdict := do
  Run.pause
  if rows.isEmpty then return .noRows
  else match target.condition with
    | none => return ⟨.zero, 1, false⟩
    | some c => best setting target.aliases c .infinite 0 rows

theorem judge_eq (given : Option (List Row)) (target : Target) :
    judge setting driver text given target =
      candidates setting driver text target given >>= overRows setting target := rfl

/-- A congruence of the evaluations holds between the searches for the least distance. -/
theorem relates_best {R : Congruence} {setting' : Setting} (aliases : Aliases) {c : Condition}
    (h : R.Relates setting setting' c.subqueries) : (rows : List Row) → ∀ least count,
      R.Holds (best setting aliases c least count rows) (best setting' aliases c least count rows)
  | [], least, count => R.pure _
  | row :: rest, least, count => by
    rw [best, best]
    refine R.bind (h.outcome c) fun o => R.bind h.pause fun _ => ?_
    dsimp only
    split
    · exact R.pure _
    · exact relates_best aliases h rest _ _

theorem relates_overRows {R : Congruence} {setting' : Setting} (target : Target)
    (h : R.Relates setting setting' target.subqueries) (rows : List Row) :
    R.Holds (overRows setting target rows) (overRows setting' target rows) := by
  unfold overRows
  refine R.bind h.pause fun _ => ?_
  split
  · exact R.pure _
  · unfold Target.subqueries at h
    cases hc : target.condition with
    | none => exact R.pure _
    | some c =>
      rw [hc] at h
      exact relates_best target.aliases h rows _ _

theorem covers_overRows (h : law.CoversSteps setting) (target : Target) (rows : List Row) :
    law.Covers (overRows setting target rows) :=
  relates_overRows target (h.relates _) rows

theorem covers_judge (h : law.CoversSteps setting) {target : Target} {given : Option (List Row)}
    (hcandidates : law.Covers (candidates setting driver text target given)) :
    law.Covers (judge setting driver text given target) :=
  Law.covers_bind hcandidates fun rows => covers_overRows h target rows

/-- Tells what the lookup of a target was, if there was one. -/
def tellLookup (setting : Setting) : Option Event → Run Unit
  | some e => Run.tell setting.sink e
  | none => pure ()

/-- The verdict on what was found for a text. -/
def judgeFound (setting : Setting) (driver : Driver) (text : String) (rows : Option (List Row)) :
    Except TargetError Target → Run Verdict
  | .ok t => judge setting driver text rows t
  | .error e => throw (.ofTarget e)

theorem attempt_eq (rows : Option (List Row)) (target : Except TargetError Target)
    (event : Option Event) :
    attempt setting driver text rows target event =
      tellLookup setting event >>= fun _ => judgeFound setting driver text rows target := by
  cases event <;> cases target <;> rfl

theorem covers_attempt (h : law.CoversSteps setting) {event : Option Event}
    (hevent : ∀ e, event = some e → law.Covers (Run.tell setting.sink e))
    {rows : Option (List Row)}
    (hcandidates : ∀ t, law.Covers (candidates setting driver text t rows))
    (hthrow : ∀ e, law.Covers (throw (.ofTarget e) : Run Verdict))
    (target : Except TargetError Target) :
    law.Covers (attempt setting driver text rows target event) := by
  rw [attempt_eq]
  refine Law.covers_bind ?_ fun _ => ?_
  · cases event with
    | none => exact Law.covers_pure ()
    | some e => exact hevent e rfl
  · cases target with
    | ok t => exact covers_judge h (hcandidates t)
    | error e => exact hthrow e

/-- Until it is closed, a calculation tells no closing event, and it fails by an internal failure
exactly if the sink panics. -/
theorem telling_attempt {event : Option Event} (hevent : ∀ e, event = some e → e.isClosing = false)
    (target : Except TargetError Target) (rows : Option (List Row)) :
    (Law.telling setting.sink).Covers (attempt setting driver text rows target event) := by
  have hsteps : (Law.telling setting.sink).CoversSteps setting :=
    .of_silent Law.telling_of_silent fun kind => Law.telling_tell _ rfl
  have hthrow {α : Type} {f : Failure} (hf : f.kind ≠ .internal) :
      (Law.telling setting.sink).Covers (throw f : Run α) :=
    fun p => ⟨[], by simp [Run.failure?, hf]⟩
  refine covers_attempt hsteps (fun e he => Law.telling_tell _ (hevent e he)) (fun t => ?_)
    (fun e => hthrow ?_) target
  · cases rows with
    | some rows => exact Law.covers_pure rows
    | none =>
      unfold candidates
      cases t.probeQuery with
      | none => exact hthrow (by simp [Failure.noProbe])
      | some query =>
        have hask : (Law.telling setting.sink).Covers (setting.ask driver query) :=
          fun p => Law.telling_of_silent (Law.silent_ask setting driver query p)
        refine Law.covers_bind hsteps.check fun _ => Law.covers_bind (hsteps.tell .probe) fun _ =>
          Law.covers_bind hask fun result => ?_
        cases result with
        | ok rows => exact Law.covers_pure rows
        | error e => exact hthrow (by cases e <;> simp [Failure.ofDriver])
  · rw [Failure.ofTarget]
    split <;> simp

/-- With given rows no failure is one of the driver. -/
theorem avoiding_attempt (target : Except TargetError Target) (event : Option Event)
    (rows : List Row) :
    (Law.avoiding .driver).Covers (attempt setting driver text (some rows) target event) := by
  refine covers_attempt (.of_silent Law.avoiding_of_silent fun kind => Law.avoiding_tell _ _)
    (fun e _ => Law.avoiding_tell _ e) (fun t => Law.covers_pure rows) (fun e p => ?_) target
  change Option.map Failure.kind (some (Failure.ofTarget e)) ≠ some .driver
  rw [Failure.ofTarget]
  split <;> simp

end Engine

/-! ### Values of runs -/

/-- Every value that a run gives has a property. -/
def Run.Returns (r : Run α) (Q : α → Prop) : Prop := ∀ p a, (r.run p).1 = .ok a → Q a

theorem Run.returns_pure {a : α} {Q : α → Prop} (h : Q a) : (pure a : Run α).Returns Q := by
  intro p b hb
  cases hb
  exact h

theorem Run.returns_bind {r : Run α} {next : α → Run β} {Q : β → Prop}
    (h : ∀ a, (next a).Returns Q) : (r >>= next).Returns Q := by
  intro p b hb
  rw [Run.run_bind] at hb
  rcases hr : r.run p with ⟨f | a, q⟩ <;> rw [hr] at hb
  · cases hb
  · exact h a q b hb

namespace Engine

variable {setting : Setting} {driver : Driver} {text : String}

theorem returns_best (aliases : Aliases) (c : Condition) : (rows : List Row) → ∀ least count,
    (best setting aliases c least count rows).Returns (·.failed = false)
  | [], least, count => Run.returns_pure rfl
  | row :: rest, least, count => by
    rw [best]
    refine Run.returns_bind fun o => Run.returns_bind fun _ => ?_
    dsimp only
    split
    · exact Run.returns_pure rfl
    · exact returns_best aliases c rest _ _

theorem returns_overRows (target : Target) (rows : List Row) :
    (overRows setting target rows).Returns (·.failed = false) := by
  unfold overRows
  refine Run.returns_bind fun _ => ?_
  split
  · exact Run.returns_pure rfl
  · split
    · exact Run.returns_pure rfl
    · exact returns_best _ _ rows _ _

/-- A verdict that is reached is not a failed one. -/
theorem returns_attempt (target : Except TargetError Target) (event : Option Event)
    (rows : Option (List Row)) :
    (attempt setting driver text rows target event).Returns (·.failed = false) := by
  rw [attempt_eq]
  refine Run.returns_bind fun _ => ?_
  cases target with
  | error e =>
    intro p v hv
    cases hv
  | ok t => exact Run.returns_bind fun rows => returns_overRows t rows

/-! ### The last event -/

/-- The event that closes a calculation with a given result. -/
def closing : Except Failure Verdict → Event
  | .ok verdict => .calculated verdict.rowsEvaluated
  | .error f => .failed f.kind

/-- The verdict on a given result. -/
def verdictOf : Except Failure Verdict → Verdict
  | .ok verdict => verdict
  | .error _ => .failure

theorem isClosing_closing (result : Except Failure Verdict) :
    (closing result).isClosing = true := by
  cases result <;> rfl

/-- A warning takes no time, tells nothing, and asks the driver for nothing but its state. -/
theorem run_warn (driver : Driver) (subject : Subject) (f : Failure) (p : Progress) :
    ∃ q calls, (warn driver subject f).run p = (.ok (), q) ∧ q.elapsed = p.elapsed ∧
      q.trace.events = p.trace.events ∧ q.trace.calls = p.trace.calls ++ calls ∧
      ∀ c ∈ calls, c = .dumpState := by
  obtain ⟨due, given, hclaim⟩ := Run.run_claim (Warning.ofFailure f) (some subject) p
  unfold warn
  dsimp only
  rw [Run.run_bind_of_ok hclaim]
  cases due with
  | false => exact ⟨_, [], rfl, rfl, rfl, (List.append_nil _).symm, by simp⟩
  | true => exact ⟨_, [.dumpState], rfl, rfl, rfl, rfl, by simp⟩

/-- Closing takes no time, tells one event, and returns unless the sink panics at it. -/
theorem run_close (setting : Setting) (driver : Driver) (subject : Subject)
    (result : Except Failure Verdict) (p : Progress) :
    ∃ q calls,
      (close setting driver subject result).run p =
        (match setting.sink.panic? (closing result) with
          | some panic => .error (.panicked panic.text)
          | none => .ok (verdictOf result), q) ∧
      q.elapsed = p.elapsed ∧ q.trace.events = p.trace.events ++ [closing result] ∧
      q.trace.calls = p.trace.calls ++ calls ∧ ∀ c ∈ calls, c = .dumpState := by
  have htell := Run.run_tell setting.sink (closing result) p
  cases hpanic : setting.sink.panic? (closing result) with
  | some panic =>
    rw [hpanic] at htell
    refine ⟨Run.told p (closing result), [], ?_, rfl, rfl, (List.append_nil _).symm, by simp⟩
    cases result <;> exact Run.run_bind_of_error htell
  | none =>
    rw [hpanic] at htell
    cases result with
    | ok verdict =>
      exact ⟨_, [], Run.run_bind_of_ok htell, rfl, rfl, (List.append_nil _).symm, by simp⟩
    | error f =>
      obtain ⟨q, calls, hwarn, helapsed, hevents, hcalls, hdump⟩ :=
        run_warn driver subject f (Run.told p (closing (.error f)))
      refine ⟨q, calls, ?_, helapsed, by rw [hevents]; rfl, by rw [hcalls]; rfl, hdump⟩
      refine (Run.run_bind_of_ok htell).trans ?_
      exact Run.run_bind_of_ok hwarn

/-- A calculation before it is closed: its result and how far it came. -/
def attempted (engine : Engine) (driver : Driver) (text : String) (rows : Option (List Row)) :
    Except Failure Verdict × Progress :=
  (attempt (engine.setting driver (.ofText text)) driver text rows (engine.target? text).1
    (engine.target? text).2.1).run { given := engine.given, pauses := engine.pauses }

section Calculate

variable (engine : Engine) (driver : Driver) (text : String) (rows : Option (List Row))

/-- A calculation closes what it attempted. -/
theorem calculate_eq :
    let attempted := engine.attempted driver text rows
    let closed := (close (engine.setting driver (.ofText text)) driver (.ofText text)
      attempted.1).run attempted.2
    let calculation := engine.calculate driver text rows
    calculation.verdict = closed.1.toOption ∧ calculation.trace = closed.2.trace ∧
      calculation.elapsed = closed.2.elapsed :=
  ⟨rfl, rfl, rfl⟩

/-- The event that closes a calculation is told after all others, and decides what is returned. -/
theorem calculate_closing :
    let attempted := engine.attempted driver text rows
    let calculation := engine.calculate driver text rows
    calculation.elapsed = attempted.2.elapsed ∧
      calculation.trace.events = attempted.2.trace.events ++ [closing attempted.1] ∧
      (∃ calls, calculation.trace.calls = attempted.2.trace.calls ++ calls ∧
        ∀ c ∈ calls, c = .dumpState) ∧
      calculation.verdict = match engine.observer.toSink.panic? (closing attempted.1) with
        | some _ => none
        | none => some (verdictOf attempted.1) := by
  intro attempted calculation
  obtain ⟨hverdict, htrace, htime⟩ := engine.calculate_eq driver text rows
  obtain ⟨q, calls, hrun, helapsed, hevents, hcalls, hdump⟩ :=
    run_close (engine.setting driver (.ofText text)) driver (.ofText text) attempted.1 attempted.2
  rw [hrun] at hverdict htrace htime
  refine ⟨htime.trans helapsed, by rw [htrace, hevents], ⟨calls, by rw [htrace, hcalls], hdump⟩, ?_⟩
  rw [hverdict]
  dsimp only
  rw [show (engine.setting driver (.ofText text)).sink = engine.observer.toSink from rfl]
  cases engine.observer.toSink.panic? (closing attempted.1) <;> rfl

theorem isClosing_of_target? (e : Event) (h : (engine.target? text).2.1 = some e) :
    e.isClosing = false := by
  unfold target? at h
  split at h
  · cases h
    split <;> rfl
  · cases h

/-- What is told before the last event. -/
theorem telling_attempted :
    let attempted := engine.attempted driver text rows
    (∀ e ∈ attempted.2.trace.events, e.isClosing = false) ∧
      ((∃ e ∈ attempted.2.trace.events, ∃ panic, engine.observer.toSink.panic? e = some panic) ↔
        (Run.failure? attempted.1).map Failure.kind = some .internal) := by
  intro attempted
  have h := @telling_attempt (engine.setting driver (.ofText text)) driver text _
    (engine.isClosing_of_target? text) (engine.target? text).1 rows
    { given := engine.given, pauses := engine.pauses }
  obtain ⟨new, hnew, hclosing, hpanic⟩ := h
  have hevents : attempted.2.trace.events = new := hnew
  rw [← hevents] at hclosing hpanic
  exact ⟨hclosing, hpanic⟩

end Calculate

end Engine

end BranchDistance
