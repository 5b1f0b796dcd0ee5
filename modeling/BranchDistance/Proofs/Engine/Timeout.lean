import BranchDistance.Proofs.Engine.Course

/-!
# Timeouts

A query that the driver gives up is the last of its calculation, which fails by it.  As long as the
deadline is not over, nothing else that the driver may answer has this effect
(`Engine.StopsAtTimeout`).  The same holds of the evaluation of one condition over one row
(`Setting.StopsAtTimeout`), and `only_timeout_stops` states both.
-/

namespace BranchDistance

/-! ### Evaluations -/

/-- What timeouts of the driver do to a run from a state. -/
structure Setting.StopsAtTimeout (driver : Driver) (deadline : Deadline) (p : Progress) {α : Type}
    (done : Except Failure α × Progress) (new : List Call) : Prop where
  calls : done.2.trace.calls = p.trace.calls ++ new
  /-- A query that is given up is the last. -/
  last : ∀ front i back, Inquiry.among p.trace.calls new = front ++ i :: back →
    i.TimesOut driver → back = []
  /-- If it ends in time, the run is given up exactly if one of its queries is. -/
  stops : deadline.isExpired done.2.elapsed = false →
    ((∃ f, done.1 = .error f) ↔ ∃ i ∈ Inquiry.among p.trace.calls new, i.TimesOut driver)

/-- A run with an account that only the deadline can give up is given up by timeouts only. -/
theorem Account.stopsAtTimeout {driver : Driver} {deadline : Deadline}
    {qs : List (QueryKind × String)} {kinds : List QueryKind} {new : List Call} {p : Progress}
    {α : Type} {done : Except Failure α × Progress}
    (h : Account driver deadline qs kinds new p (Run.failure? done.1) done.2)
    (hpunctual : Law.punctual.Holds p (Run.failure? done.1) done.2) :
    Setting.StopsAtTimeout driver deadline p done new where
  calls := h.calls
  last front i back heq hi := (h.stop.last front i back heq hi).2
  stops hintime := by
    rw [← h.stop.stopped_iff hintime]
    rcases done with ⟨f | a, q⟩
    · obtain hnone | ⟨t, ht⟩ := hpunctual
      · cases hnone
      · cases ht
        simp [Run.failure?, Failure.deadline]
    · simp [Run.failure?]

theorem Setting.stopsAtTimeout {setting : Setting} {driver : Driver}
    (hquiet : setting.sink.IsQuiet) (hd : ∀ d, setting.driver = some d → d = driver)
    (scope : Scope) (c : Condition) (p : Progress) :
    ∃ new, StopsAtTimeout driver setting.deadline p ((setting.outcome scope c).run p) new := by
  obtain ⟨kinds, new, h⟩ := (Setting.account_relates hquiet hd c.subqueries).outcome c p
  exact ⟨new, h.stopsAtTimeout ((Law.punctual_coversSteps hquiet).outcome c p)⟩

/-! ### Calculations -/

namespace Engine

/-- Candidate rows are there: they are given, or the first query is answered by them. -/
def HasRows (engine : Engine) (driver : Driver) (text : String) (rows : Option (List Row)) : Prop :=
  rows.isSome ∨ ∃ i list, (engine.inquiries driver text rows).head? = some i ∧
    (i.reply driver).answer = .rows list

/-- What timeouts of the driver do to a calculation. -/
structure StopsAtTimeout (engine : Engine) (driver : Driver) (text : String)
    (rows : Option (List Row)) : Prop where
  /-- A query that is given up is the last, and the calculation fails by it. -/
  timeout : ∀ front i back, engine.inquiries driver text rows = front ++ i :: back →
    i.TimesOut driver →
      back = [] ∧ (engine.calculate driver text rows).verdict = some ⟨.infinite, 0, true⟩ ∧
        (engine.calculate driver text rows).trace.events.filter Event.isFailed = [.failed .timeout]
  /-- In time nothing else is a failure of that class. -/
  patient : engine.InTime driver text rows →
    (∀ i ∈ engine.inquiries driver text rows, ¬ i.TimesOut driver) →
      .failed .timeout ∉ (engine.calculate driver text rows).trace.events
  /-- With a target and rows nothing else is a failure at all. -/
  succeeds : engine.InTime driver text rows →
    (∀ i ∈ engine.inquiries driver text rows, ¬ i.TimesOut driver) →
      ∀ target, (engine.target? text).1 = .ok target → engine.HasRows driver text rows →
        ∃ v, (engine.calculate driver text rows).verdict = some v ∧ v.failed = false

section Calculate

variable {engine : Engine} {driver : Driver} {text : String} {rows : Option (List Row)}

/-- The query that stops a calculation. -/
theorem stopAt_attempted (hquiet : engine.IsQuiet) :
    Inquiry.StopAt driver (engine.InTime driver text rows)
      ((Run.failure? (engine.attempted driver text rows).1).map Failure.kind = some .timeout)
      (engine.inquiries driver text rows) := by
  obtain ⟨kinds, new, h, -⟩ := account_attempted driver text rows hquiet
  rw [inquiries_eq, inTime_iff, h.calls]
  exact h.stop

/-- With a target and rows only the deadline gives a calculation up. -/
theorem punctual_attempted (hquiet : engine.IsQuiet) {target : Target}
    (htarget : (engine.target? text).1 = .ok target) (hrows : engine.HasRows driver text rows) :
    Law.punctual.Holds {} (Run.failure? (engine.attempted driver text rows).1) {} := by
  have hinquiries := inquiries_eq engine driver text rows
  cases engine.course driver text rows hquiet with
  | unread rows e hnone => rw [htarget] at hnone; cases hnone
  | unprobed _ _ _ hrun =>
    rcases hrows with h | ⟨i, list, h, -⟩
    · cases h
    · rw [hinquiries, hrun] at h
      cases h
  | abandoned _ _ _ _ _ hrun =>
    rw [hrun]
    exact .inr ⟨_, rfl⟩
  | refused _ query e _ _ _ hread hrun =>
    rcases hrows with h | ⟨i, list, h, hrows⟩
    · cases h
    · rw [hinquiries, hrun] at h
      obtain rfl : engine.probe query = i := Option.some.inj h
      rw [hrows] at hread
      cases hread
  | answered target _ list _ _ _ _ hrun =>
    rw [hrun]
    exact punctual_overRows driver text hquiet target list _
  | supplied target list _ hrun =>
    rw [hrun]
    exact punctual_overRows driver text hquiet target list _

theorem stopsAtTimeout (hquiet : engine.IsQuiet) : StopsAtTimeout engine driver text rows := by
  have hstop := @stopAt_attempted engine driver text rows hquiet
  have hfailed := filter_isFailed_calculate driver text rows hquiet
  obtain ⟨hverdict, -⟩ := calculate_quiet driver text rows hquiet
  have hgoes (hintime : engine.InTime driver text rows)
      (hnone : ∀ i ∈ engine.inquiries driver text rows, ¬ i.TimesOut driver) :
      (Run.failure? (engine.attempted driver text rows).1).map Failure.kind ≠ some .timeout := by
    intro h
    obtain ⟨i, hi, htimeout⟩ := hstop.stops hintime h
    exact hnone i hi htimeout
  constructor
  case timeout =>
    intro front i back heq hi
    obtain ⟨htimeout, hback⟩ := hstop.last front i back heq hi
    refine ⟨hback, ?_⟩
    -- the calculation has failed by this timeout, which is what closing tells
    rcases hresult : (engine.attempted driver text rows).1 with f | v <;>
      rw [hresult] at htimeout hfailed hverdict
    · have hkind : f.kind = .timeout := Option.some.inj htimeout
      rw [← hkind]
      exact ⟨hverdict, hfailed⟩
    · cases htimeout
  case patient =>
    intro hintime hnone hmem
    exact hgoes hintime hnone ((failed_mem_calculate_iff driver text rows hquiet).1 hmem)
  case succeeds =>
    intro hintime hnone target htarget hrows
    refine ⟨_, hverdict, Bool.eq_false_iff.2 fun hfailed => ?_⟩
    obtain ⟨f, hf⟩ := (failed_verdictOf_attempted driver text rows).1 hfailed
    have hpunctual := punctual_attempted hquiet htarget hrows
    have hclass := hgoes hintime hnone
    rw [hf] at hpunctual hclass
    obtain hnone | ⟨t, ht⟩ := hpunctual
    · cases hnone
    · cases ht
      exact hclass rfl

end Calculate

/-- Only a timeout of the driver stops a calculation or the evaluation of a condition, and it does
so at once. -/
theorem only_timeout_stops :
    (∀ (engine : Engine) (driver : Driver) (text : String) (rows : Option (List Row)),
      engine.IsQuiet → engine.StopsAtTimeout driver text rows) ∧
    ∀ (setting : Setting) (driver : Driver) (scope : Scope) (c : Condition) (p : Progress),
      setting.sink.IsQuiet → (∀ d, setting.driver = some d → d = driver) →
        ∃ new, Setting.StopsAtTimeout driver setting.deadline p ((setting.outcome scope c).run p)
          new :=
  ⟨fun _ _ _ _ => stopsAtTimeout,
    fun _ _ scope c p hquiet hd => Setting.stopsAtTimeout hquiet hd scope c p⟩

/-- The first subquery of the second row is given up: the calculation does not ask the second one,
and does not go on to the third row.  The evaluation of one condition stops at its third
subquery. -/
theorem only_timeout_stops_nested :
    let engine : Engine := { config := {} }
    let driver : Driver := {
      execute := fun history query _ =>
        ⟨if history.length < 3 then .panic else .error (.timeout query), 7⟩
      dumpState := fun _ => none }
    let text := "NOT EXISTS (SELECT 1 FROM t) OR x IN (SELECT y FROM u)"
    let rows := List.replicate 3 (Row.empty.insert none "x" (.int 1))
    let setting : Setting := { config := {}, driver }
    let subquery : Condition := .exists "SELECT 1 FROM t"
    let parts : Condition := .and [.not subquery, subquery, subquery]
    let single := (setting.outcome ⟨.empty, .empty⟩ parts).run {}
    engine.IsQuiet ∧
      (engine.inquiries driver text (some rows)).map (·.query) =
        ["SELECT 1 FROM t", "SELECT y FROM u", "SELECT 1 FROM t"] ∧
      (engine.calculate driver text (some rows)).trace.events.filter Event.isFailed =
        [.failed .timeout] ∧
      setting.deadline.isExpired single.2.elapsed = false ∧ ∃ f, single.1 = .error f := by
  intro engine driver text rows setting subquery parts single
  have hquiet : engine.IsQuiet := fun _ => rfl
  have hinquiries : engine.inquiries driver text (some rows) =
      [⟨[], "SELECT 1 FROM t", some 1000⟩,
        ⟨[.execute "SELECT 1 FROM t" (some 1000), .dumpState], "SELECT y FROM u", some 993⟩] ++
        ⟨[.execute "SELECT 1 FROM t" (some 1000), .dumpState,
          .execute "SELECT y FROM u" (some 993)], "SELECT 1 FROM t", some 986⟩ :: [] := by
    decide +kernel
  have hstops := only_timeout_stops.1 engine driver text (some rows) hquiet
  obtain ⟨-, -, hfailed⟩ := hstops.timeout _ _ _ hinquiries rfl
  have hunbounded : setting.deadline.isExpired single.2.elapsed = false := rfl
  obtain ⟨new, hsingle⟩ := only_timeout_stops.2 setting driver ⟨.empty, .empty⟩ parts {}
    (fun _ => rfl) (fun d hd => (Option.some.inj hd).symm)
  refine ⟨hquiet, by rw [hinquiries]; rfl, hfailed, hunbounded, (hsingle.stops hunbounded).2 ?_⟩
  have hnew : single.2.trace.calls = new := hsingle.calls
  rw [← hnew]
  exact ⟨⟨[.execute "SELECT 1 FROM t" none, .dumpState, .execute "SELECT 1 FROM t" none,
    .dumpState], "SELECT 1 FROM t", none⟩, by decide +kernel, rfl⟩

end Engine

end BranchDistance
