import BranchDistance.Proofs.Engine.Probe
import BranchDistance.Proofs.Evaluate.Query

/-!
# The course of a calculation

With a sink that never panics a calculation can go in six ways, by what becomes of its target and of
its probe (`Course`, `course`).  From this follows what it leaves in its trace before it is closed:
the event of the lookup, the probe if there is one, and then subqueries only
(`account_attempted`).
-/

namespace BranchDistance

/-- Whether an event says that a calculation has failed. -/
def Event.isFailed : Event → Bool
  | .failed _ => true
  | _ => false

theorem Answer.eq_rows_of_read {answer : Answer} {query : String} {rows : List Row}
    (h : answer.read query = .ok rows) : answer = .rows rows := by
  cases answer with
  | rows list => cases h; rfl
  | error e => cases h
  | panic => cases h

/-- An error that is no timeout is a failure of the driver. -/
theorem Answer.kind_of_read {answer : Answer} {query : String} {e : DriverError}
    (htimeout : answer.isTimeout = false) (hread : answer.read query = .error e) :
    (Failure.ofDriver e).kind = .driver := by
  rcases answer with list | (_ | _ | _) | _
  case rows => cases hread
  case error.timeout => cases htimeout
  all_goals
    cases hread
    rfl

namespace Law

/-- Only the deadline gives a run up. -/
def punctual : Law where
  Holds _ f _ := f = none ∨ ∃ t, f = some (.deadline t)
  refl _ := .inl rfl
  trans _ h := h

theorem punctual_coversSteps {setting : Setting} (hquiet : setting.sink.IsQuiet) :
    punctual.CoversSteps setting := by
  refine .of_silent (fun h => h.2) fun kind p => ?_
  rw [Run.run_tell, hquiet]
  exact .inl rfl

end Law

/-- The queries that a target may ask, and what for. -/
def Target.queries (target : Target) : List (QueryKind × String) :=
  target.probeQuery.toList.map (.probe, ·) ++ target.subqueries

theorem Target.kind_of_mem_subqueries {target : Target} {kind : QueryKind} {query : String}
    (h : (kind, query) ∈ target.subqueries) : kind ≠ .probe := by
  unfold subqueries at h
  split at h
  · cases h
  · exact Condition.kind_of_mem_subqueries _ h

namespace Engine

variable (engine : Engine) (driver : Driver) (text : String) (rows : Option (List Row))

/-- The sink of the engine never panics. -/
def IsQuiet : Prop := engine.observer.toSink.IsQuiet

/-- The deadline of a calculation. -/
def deadline : Deadline := ⟨engine.config.timeout?⟩

/-- The state after the lookup of a target. -/
def started : Progress where
  trace := { events := (engine.target? text).2.1.toList }
  given := engine.given
  pauses := engine.pauses

/-- A probe in its place, which is before all other calls. -/
def probe (query : String) : Inquiry := ⟨[], query, engine.deadline.remaining? 0⟩

/-- The state when the reply to a probe is there. -/
def probed (query : String) : Progress :=
  (engine.setting driver (.ofText text)).queried .probe driver query (engine.started text)

/-- A probe is given up, or its reply comes too late. -/
def probeComesLate (query : String) : Bool :=
  (engine.setting driver (.ofText text)).comesLate driver (engine.probe query)
    (engine.probed driver text query)

/-- How a calculation goes before it is closed. -/
inductive Course : Option (List Row) → Prop
  /-- The text has no target. -/
  | unread (rows : Option (List Row)) (e : TargetError)
      (htarget : (engine.target? text).1 = .error e)
      (hrun : engine.attempted driver text rows = (.error (.ofTarget e), engine.started text)) :
      Course rows
  /-- There are neither rows nor a query for them. -/
  | unprobed (target : Target) (htarget : (engine.target? text).1 = .ok target)
      (hprobe : target.probeQuery = none)
      (hrun : engine.attempted driver text none = (.error (.noProbe text), engine.started text)) :
      Course none
  /-- The probe is given up or answered too late. -/
  | abandoned (target : Target) (query : String) (htarget : (engine.target? text).1 = .ok target)
      (hprobe : target.probeQuery = some query) (hlate : engine.probeComesLate driver text query)
      (hrun : engine.attempted driver text none =
        (.error (.deadline (engine.probed driver text query).elapsed),
          engine.probed driver text query)) :
      Course none
  /-- The probe is answered by an error. -/
  | refused (target : Target) (query : String) (e : DriverError)
      (htarget : (engine.target? text).1 = .ok target) (hprobe : target.probeQuery = some query)
      (hlate : ¬ engine.probeComesLate driver text query)
      (hread : ((engine.probe query).reply driver).answer.read query = .error e)
      (hrun : engine.attempted driver text none =
        (.error (.ofDriver e), engine.probed driver text query)) :
      Course none
  /-- The probe is answered by rows. -/
  | answered (target : Target) (query : String) (rows : List Row)
      (htarget : (engine.target? text).1 = .ok target) (hprobe : target.probeQuery = some query)
      (hlate : ¬ engine.probeComesLate driver text query)
      (hread : ((engine.probe query).reply driver).answer = .rows rows)
      (hrun : engine.attempted driver text none =
        (overRows (engine.setting driver (.ofText text)) target rows).run
          (engine.probed driver text query)) :
      Course none
  /-- The rows are given. -/
  | supplied (target : Target) (rows : List Row) (htarget : (engine.target? text).1 = .ok target)
      (hrun : engine.attempted driver text (some rows) =
        (overRows (engine.setting driver (.ofText text)) target rows).run (engine.started text)) :
      Course (some rows)

variable {engine}

theorem isExpired_zero : engine.deadline.isExpired 0 = false := by
  unfold deadline Config.timeout?
  split
  · rfl
  · next h => simpa [Deadline.isExpired] using h

/-- A calculation looks its target up before all else. -/
theorem attempted_eq (hquiet : engine.IsQuiet) :
    engine.attempted driver text rows =
      (judgeFound (engine.setting driver (.ofText text)) driver text rows
        (engine.target? text).1).run (engine.started text) := by
  have hlookup : (tellLookup (engine.setting driver (.ofText text)) (engine.target? text).2.1).run
      { given := engine.given, pauses := engine.pauses } = (.ok (), engine.started text) := by
    unfold started
    cases (engine.target? text).2.1 with
    | none => rfl
    | some event =>
      rw [tellLookup, Run.run_tell, show (engine.setting driver (.ofText text)).sink.panic? event =
        none from hquiet event]
      rfl
  unfold attempted
  rw [attempt_eq, Run.run_bind_of_ok hlookup]

theorem judge_probe {setting : Setting} {driver : Driver} {text : String} {target : Target}
    {query : String}
    (hprobe : target.probeQuery = some query) :
    judge setting driver text none target =
      setting.query .probe driver query >>= afterProbe setting target := by
  rw [judge_none, hprobe]
  unfold Setting.query
  simp only [bind_assoc]

/-- The deadline is not over before the probe is asked. -/
theorem run_probe (hquiet : engine.IsQuiet) (query : String) :
    ((engine.setting driver (.ofText text)).query .probe driver query).run (engine.started text) =
      if engine.probeComesLate driver text query then
        (.error (.deadline (engine.probed driver text query).elapsed),
          engine.probed driver text query)
      else
        (.ok (((engine.probe query).reply driver).answer.read query),
          engine.probed driver text query) :=
  (@Setting.run_query (engine.setting driver (.ofText text)) .probe (hquiet _) driver query
    (engine.started text)).trans (if_neg (Bool.eq_false_iff.1 isExpired_zero))

/-- A calculation goes in one of six ways. -/
theorem course (hquiet : engine.IsQuiet) : engine.Course driver text rows := by
  have hrun := attempted_eq driver text rows hquiet
  cases htarget : (engine.target? text).1 with
  | error e =>
    rw [htarget] at hrun
    exact .unread rows e htarget hrun
  | ok target =>
    rw [htarget, judgeFound] at hrun
    cases rows with
    | some rows => exact .supplied target rows htarget hrun
    | none =>
      cases hprobe : target.probeQuery with
      | none =>
        rw [judge_none, hprobe] at hrun
        exact .unprobed target htarget hprobe hrun
      | some query =>
        have hquery := run_probe driver text hquiet query
        rw [judge_probe hprobe] at hrun
        by_cases hlate : engine.probeComesLate driver text query = true
        · rw [if_pos hlate] at hquery
          rw [Run.run_bind_of_error hquery] at hrun
          exact .abandoned target query htarget hprobe hlate hrun
        · rw [if_neg hlate] at hquery
          rw [Run.run_bind_of_ok hquery] at hrun
          -- the reply is in time: an error ends the calculation, rows are evaluated
          cases hread : ((engine.probe query).reply driver).answer.read query with
          | error e =>
            rw [hread] at hrun
            exact .refused target query e htarget hprobe hlate hread hrun
          | ok rows =>
            rw [hread] at hrun
            exact .answered target query rows htarget hprobe hlate (Answer.eq_rows_of_read hread)
              hrun

/-! ### The verdict -/

/-- A calculation returns what its result stands for, and tells it last. -/
theorem calculate_quiet (hquiet : engine.IsQuiet) :
    let attempted := engine.attempted driver text rows
    (engine.calculate driver text rows).verdict = some (verdictOf attempted.1) ∧
      (engine.calculate driver text rows).trace.events =
        attempted.2.trace.events ++ [closing attempted.1] := by
  intro attempted
  obtain ⟨-, hevents, -, hverdict⟩ := engine.calculate_closing driver text rows
  rw [show engine.observer.toSink.panic? (closing attempted.1) = none from hquiet _] at hverdict
  exact ⟨hverdict, hevents⟩

/-- The verdict of a calculation says whether it has failed. -/
theorem failed_verdictOf_attempted :
    (verdictOf (engine.attempted driver text rows).1).failed = true ↔
      ∃ f, (engine.attempted driver text rows).1 = .error f := by
  have hreturns := @returns_attempt (engine.setting driver (.ofText text)) driver text
    (engine.target? text).1 (engine.target? text).2.1 rows
    { given := engine.given, pauses := engine.pauses }
  change ∀ v, (engine.attempted driver text rows).1 = .ok v → v.failed = false at hreturns
  cases hresult : (engine.attempted driver text rows).1 with
  | ok v => simp [verdictOf, hreturns v hresult]
  | error f => simp [verdictOf, Verdict.failure]

/-- The failures that are told are those of the result. -/
theorem filter_isFailed_calculate (hquiet : engine.IsQuiet) :
    (engine.calculate driver text rows).trace.events.filter Event.isFailed =
      ((Run.failure? (engine.attempted driver text rows).1).map (.failed ·.kind)).toList := by
  have hfront : (engine.attempted driver text rows).2.trace.events.filter Event.isFailed = [] := by
    refine List.filter_eq_nil_iff.2 fun e he hfailed => ?_
    have hclosing := (engine.telling_attempted driver text rows).1 e he
    cases e with
    | failed kind => cases hclosing
    | _ => cases hfailed
  rw [(calculate_quiet driver text rows hquiet).2, List.filter_append, hfront]
  cases (engine.attempted driver text rows).1 <;> rfl

theorem failed_mem_calculate_iff (hquiet : engine.IsQuiet) {kind : FailureClass} :
    .failed kind ∈ (engine.calculate driver text rows).trace.events ↔
      (Run.failure? (engine.attempted driver text rows).1).map Failure.kind = some kind := by
  have hfilter := filter_isFailed_calculate driver text rows hquiet
  have hmem : .failed kind ∈ (engine.calculate driver text rows).trace.events ↔
      .failed kind ∈ (engine.calculate driver text rows).trace.events.filter Event.isFailed := by
    simp [Event.isFailed]
  rw [hmem, hfilter]
  simp

/-- Only the deadline gives the search for the least distance up. -/
theorem punctual_overRows (hquiet : engine.IsQuiet) (target : Target) (list : List Row) :
    Law.punctual.Covers (overRows (engine.setting driver (.ofText text)) target list) :=
  covers_overRows (@Law.punctual_coversSteps (engine.setting driver (.ofText text)) hquiet)
    target list

/-! ### Queries and time -/

variable (engine)

/-- The queries that the driver receives in a calculation. -/
def inquiries : List Inquiry := Inquiry.among [] (engine.calculate driver text rows).trace.calls

/-- The deadline is not over when the calculation is closed. -/
def InTime : Prop :=
  engine.deadline.isExpired (engine.calculate driver text rows).elapsed = false

instance : Decidable (engine.InTime driver text rows) := inferInstanceAs (Decidable (_ = false))

/-- Closing a calculation asks no query. -/
theorem inquiries_eq : engine.inquiries driver text rows =
    Inquiry.among [] (engine.attempted driver text rows).2.trace.calls := by
  obtain ⟨-, -, ⟨dumps, hcalls, hdumps⟩, -⟩ := engine.calculate_closing driver text rows
  rw [inquiries, hcalls, Inquiry.among_append, Inquiry.among_dumps hdumps, List.append_nil]

/-- Closing a calculation takes no time. -/
theorem inTime_iff : engine.InTime driver text rows ↔
    engine.deadline.isExpired (engine.attempted driver text rows).2.elapsed = false := by
  rw [InTime, (engine.calculate_closing driver text rows).1]

/-! ### The account of a calculation -/

/-- The queries that a calculation may ask, and what for. -/
def queries : List (QueryKind × String) :=
  match (engine.target? text).1 with
  | .ok target => target.queries
  | .error _ => []

/-- The query by which a calculation fetches its rows, if it does. -/
def probeQuery? : Option String :=
  match rows, (engine.target? text).1 with
  | none, .ok target => target.probeQuery
  | _, _ => none

variable {engine}

theorem queries_of_ok {target : Target} (h : (engine.target? text).1 = .ok target) :
    engine.queries text = target.queries := by
  rw [queries, h]

theorem probeQuery?_of_error {e : TargetError} (h : (engine.target? text).1 = .error e) :
    engine.probeQuery? text rows = none := by
  unfold probeQuery?
  rw [h]
  cases rows <;> rfl

theorem probeQuery?_none {target : Target} (h : (engine.target? text).1 = .ok target) :
    engine.probeQuery? text none = target.probeQuery := by
  unfold probeQuery?
  rw [h]

/-- The search for the least distance asks subqueries only. -/
theorem account_overRows (hquiet : engine.IsQuiet) (target : Target) (list : List Row)
    (p : Progress) :
    let done := (overRows (engine.setting driver (.ofText text)) target list).run p
    ∃ kinds new, Account driver engine.deadline target.queries kinds new p (Run.failure? done.1)
      done.2 ∧ ∀ kind ∈ kinds, kind ≠ .probe := by
  intro done
  have hrelates := @Setting.account_relates (engine.setting driver (.ofText text)) driver hquiet
    (fun d hd => (Option.some.inj hd).symm) target.subqueries
  obtain ⟨kinds, new, h⟩ := relates_overRows target hrelates list p
  refine ⟨kinds, new, h.mono fun _ => List.mem_append_right _, fun kind hkind => ?_⟩
  obtain ⟨query, hquery⟩ := h.mem_of_kind hkind
  exact Target.kind_of_mem_subqueries hquery

theorem account_probed (engine : Engine) {target : Target} {query : String}
    (hprobe : target.probeQuery = some query) (f : Option Failure)
    (hf : f.map Failure.kind = some .timeout ↔ engine.probeComesLate driver text query) :
    ∃ new, Account driver engine.deadline target.queries [.probe] new (engine.started text) f
      (engine.probed driver text query) :=
  ⟨_, @Setting.account_queried (engine.setting driver (.ofText text)) driver _ .probe query
    (by simp [Target.queries, hprobe]) (engine.started text) f hf⟩

/-- Before it is closed a calculation asks its probe, if it has one, and then subqueries only. -/
theorem account_attempted (hquiet : engine.IsQuiet) :
    let attempted := engine.attempted driver text rows
    ∃ kinds new, Account driver engine.deadline (engine.queries text)
      ((engine.probeQuery? text rows).toList.map (fun _ => .probe) ++ kinds) new
      (engine.started text) (Run.failure? attempted.1) attempted.2 ∧
      ∀ kind ∈ kinds, kind ≠ .probe := by
  intro attempted
  have hidle (f : Failure) (hf : f.kind ≠ .timeout) :
      Account driver engine.deadline (engine.queries text) [] [] (engine.started text) (some f)
        (engine.started text) :=
    .of_trace_eq rfl (by simpa using hf)
  cases engine.course driver text rows hquiet with
  | unread rows e htarget hrun =>
    have h := hidle (.ofTarget e) (by rw [Failure.ofTarget]; split <;> simp)
    rw [probeQuery?_of_error text rows htarget, show attempted = _ from hrun]
    exact ⟨[], [], h, by simp⟩
  | unprobed target htarget hprobe hrun =>
    have h := hidle (.noProbe text) (by simp [Failure.noProbe])
    rw [probeQuery?_none text htarget, hprobe, show attempted = _ from hrun]
    exact ⟨[], [], h, by simp⟩
  | abandoned target query htarget hprobe hlate hrun =>
    obtain ⟨new, h⟩ := engine.account_probed driver text hprobe
      (some (.deadline (engine.probed driver text query).elapsed))
      (by simp [hlate, Failure.deadline])
    rw [probeQuery?_none text htarget, hprobe, queries_of_ok text htarget,
      show attempted = _ from hrun]
    exact ⟨[], new, h, by simp⟩
  | refused target query e htarget hprobe hlate hread hrun =>
    have hintime : ((engine.probe query).reply driver).answer.isTimeout = false :=
      (Bool.or_eq_false_iff.1 (Bool.eq_false_iff.2 hlate)).1
    obtain ⟨new, h⟩ := engine.account_probed driver text hprobe (some (.ofDriver e))
      (by simp [hlate, Answer.kind_of_read hintime hread])
    rw [probeQuery?_none text htarget, hprobe, queries_of_ok text htarget,
      show attempted = _ from hrun]
    exact ⟨[], new, h, by simp⟩
  | answered target query list htarget hprobe hlate hread hrun =>
    obtain ⟨new, h⟩ := engine.account_probed driver text hprobe none (by simp [hlate])
    obtain ⟨kinds, new', h', hkinds⟩ :=
      account_overRows driver text hquiet target list (engine.probed driver text query)
    rw [probeQuery?_none text htarget, hprobe, queries_of_ok text htarget,
      show attempted = _ from hrun]
    exact ⟨kinds, _, h.trans h', hkinds⟩
  | supplied target list htarget hrun =>
    obtain ⟨kinds, new, h, hkinds⟩ :=
      account_overRows driver text hquiet target list (engine.started text)
    rw [queries_of_ok text htarget, show attempted = _ from hrun]
    exact ⟨kinds, new, h, hkinds⟩

end Engine

end BranchDistance
