import BranchDistance.Proofs.Engine.Course
import BranchDistance.Proofs.Engine.Session
import BranchDistance.Proofs.Evaluate.Warning

/-!
# The warnings of a session

A calculation gives the warnings for which there is reason in what it does (`Engine.Suffers`,
`noted_calculate`), and so does a session until it is reset (`noted_after`).  Hence each warning
about a condition text is logged once between two resets if there is reason for it, and never
otherwise (`warned_once`).  That the cache is cleared makes no difference.
-/

namespace BranchDistance

/-! ### Failures and their warnings -/

namespace Warning

@[simp] theorem ofFailure_deadline (t : Nat) : ofFailure (.deadline t) = calculateTimeout := rfl

@[simp] theorem ofFailure_noProbe (text : String) :
    ofFailure (.noProbe text) = calculateFailed := rfl

@[simp] theorem ofFailure_ofTarget (e : TargetError) :
    ofFailure (.ofTarget e) = translateFailed := by
  cases h : e.isMalformed <;> simp [ofFailure, Failure.isTimeout, Failure.ofTarget, h]

theorem ofFailure_ofDriver {e : DriverError} (h : (Failure.ofDriver e).kind = .driver) :
    ofFailure (.ofDriver e) = driverFailed := by
  have htimeout : (Failure.ofDriver e).isTimeout = false := by simp [Failure.isTimeout, h]
  unfold ofFailure
  rw [htimeout]
  cases e <;> rfl

/-- A calculation that fails does not warn of a subquery. -/
theorem ofFailure_ne_subqueryFailed (f : Failure) : ofFailure f ≠ subqueryFailed := by
  unfold ofFailure
  split
  · exact nofun
  · split <;> exact nofun

end Warning

namespace Failure

@[simp] theorem kind_deadline (t : Nat) : (deadline t).kind = .timeout := rfl

@[simp] theorem kind_noProbe (text : String) : (noProbe text).kind = .unsupported := rfl

theorem kind_ofTarget_ne_timeout (e : TargetError) : (ofTarget e).kind ≠ .timeout := by
  cases h : e.isMalformed <;> simp [ofTarget, h]

end Failure

/-! ### One calculation -/

namespace Engine

variable (engine : Engine) (driver : Driver) (text : String) (rows : Option (List Row))

/-- The queries that the driver receives in a calculation after its probe. -/
def subqueriesAsked : List Inquiry :=
  (engine.inquiries driver text rows).drop (engine.probeQuery? text rows).toList.length

/-- There is reason for a warning in a calculation: a subquery fails, the deadline is over, the text
has no target, the probe fails, or there are neither rows nor a query for them. -/
def Suffers : Warning → Prop
  | .subqueryFailed =>
    ∃ i ∈ engine.subqueriesAsked driver text rows, i.Fails driver
  | .calculateTimeout => .failed .timeout ∈ (engine.calculate driver text rows).trace.events
  | .translateFailed => ∃ e, (engine.target? text).1 = .error e
  | .driverFailed => ∃ query, engine.probeQuery? text rows = some query ∧
      (engine.probe query).Fails driver
  | .calculateFailed =>
    rows = none ∧ ∃ target, (engine.target? text).1 = .ok target ∧ target.probeQuery = none

variable {engine}

theorem probe_fails_iff (query : String) :
    (engine.probe query).Fails driver ↔
      ¬ engine.probeComesLate driver text query ∧
        ∃ e, ((engine.probe query).reply driver).answer.read query = .error e :=
  @Setting.fails_inquiry_iff (engine.setting driver (.ofText text)) driver .probe query
    (engine.started text)

/-- But for failed subqueries, there is reason for one warning if a calculation fails, and for none
if it does not. -/
theorem suffers_iff (hquiet : engine.IsQuiet) {kind : Warning} (hkind : kind ≠ .subqueryFailed) :
    engine.Suffers driver text rows kind ↔
      (Run.failure? (engine.attempted driver text rows).1).map Warning.ofFailure = some kind := by
  have hfailed := @failed_mem_calculate_iff engine driver text rows hquiet
  have hprobe := @probe_fails_iff engine driver text
  have hpunctual {target : Target} {list : List Row} {p : Progress}
      {result : Except Failure Verdict × Progress}
      (hrun : result = (overRows (engine.setting driver (.ofText text)) target list).run p) :
      Run.failure? result.1 = none ∨ ∃ t, Run.failure? result.1 = some (.deadline t) := by
    rw [hrun]
    exact punctual_overRows driver text hquiet target list p
  cases engine.course driver text rows hquiet with
  | unread rows e htarget hrun =>
    have hnone := probeQuery?_of_error text rows htarget
    have htimeout := Failure.kind_ofTarget_ne_timeout e
    rw [hrun] at hfailed ⊢
    cases kind <;> simp_all [Suffers, Run.failure?]
  | unprobed target htarget hprobe hrun =>
    have hnone := probeQuery?_none text htarget
    rw [hrun] at hfailed ⊢
    cases kind <;> simp_all [Suffers, Run.failure?]
  | abandoned target query htarget hprobe hlate hrun =>
    have hsome := probeQuery?_none text htarget
    rw [hrun] at hfailed ⊢
    cases kind <;> simp_all [Suffers, Run.failure?]
  | refused target query e htarget hprobe hlate hread hrun =>
    have hsome := probeQuery?_none text htarget
    have hdriver : (Failure.ofDriver e).kind = .driver :=
      Answer.kind_of_read (Bool.or_eq_false_iff.1 (Bool.eq_false_iff.2 hlate)).1 hread
    have hwarning := Warning.ofFailure_ofDriver hdriver
    rw [hrun] at hfailed ⊢
    cases kind <;> simp_all [Suffers, Run.failure?]
  | answered target query list htarget hprobe hlate hread hrun =>
    have hsome := probeQuery?_none text htarget
    have hrows : ((engine.probe query).reply driver).answer.read query = .ok list := by
      rw [hread]
      rfl
    obtain hnone | ⟨t, ht⟩ := hpunctual hrun <;> cases kind <;> simp_all [Suffers]
  | supplied target list htarget hrun =>
    have hnone : engine.probeQuery? text (some list) = none := rfl
    obtain hnone | ⟨t, ht⟩ := hpunctual hrun <;> cases kind <;> simp_all [Suffers]

/-- A state in which a calculation may start with its subqueries. -/
structure IsReady (engine : Engine) (driver : Driver) (text : String) (rows : Option (List Row))
    (p : Progress) : Prop where
  calls : ∀ c ∈ p.trace.calls, c ≠ .dumpState
  inquiries : (Inquiry.among [] p.trace.calls).length =
    (engine.probeQuery? text rows).toList.length
  records : p.trace.records = []
  given : p.given = engine.given

theorem isReady_started (h : engine.probeQuery? text rows = none) :
    engine.IsReady driver text rows (engine.started text) :=
  ⟨by simp [started], by rw [h]; rfl, rfl, rfl⟩

theorem isReady_probed {query : String} (h : engine.probeQuery? text rows = some query) :
    engine.IsReady driver text rows (engine.probed driver text query) :=
  ⟨by simp [probed, Setting.queried, Setting.answered, Run.called, Run.told, started],
    by rw [h]; rfl, rfl, rfl⟩

/-- The warnings of the part of a calculation that starts in such a state. -/
theorem noted_of_isReady {p : Progress} (h : engine.IsReady driver text rows p)
    (hlaw : (Law.noted driver (.ofText text)).Holds p
      (Run.failure? (engine.attempted driver text rows).1) (engine.attempted driver text rows).2) :
    Noted (fun key => key = (.subqueryFailed, .ofText text) ∧
        engine.Suffers driver text rows .subqueryFailed)
      (engine.attempted driver text rows).2.trace.calls
      (engine.attempted driver text rows).2.trace.records engine.given
      (engine.attempted driver text rows).2.given := by
  obtain ⟨calls, records, hcalls, hrecords, hnoted⟩ := hlaw
  have hasked : engine.subqueriesAsked driver text rows = Inquiry.among p.trace.calls calls := by
    rw [subqueriesAsked, inquiries_eq, hcalls, Inquiry.among_append, ← h.inquiries]
    exact List.drop_left
  rw [hcalls, hrecords, h.records, ← h.given]
  refine ((Noted.of_queries h.calls p.given).trans hnoted).congr fun key => ?_
  rw [Suffers, hasked, false_or]
  rfl

/-- A calculation comes to a state from which its subqueries start, and stops there or goes on with
its rows. -/
theorem exists_isReady (hquiet : engine.IsQuiet) :
    ∃ p, engine.IsReady driver text rows p ∧
      ((engine.attempted driver text rows).2 = p ∨
        ∃ target list, engine.attempted driver text rows =
          (overRows (engine.setting driver (.ofText text)) target list).run p) := by
  cases engine.course driver text rows hquiet with
  | unread rows e htarget hrun =>
    have hprobe := probeQuery?_of_error text rows htarget
    exact ⟨_, isReady_started driver text rows hprobe, .inl (by rw [hrun])⟩
  | unprobed target htarget hprobe hrun =>
    rw [← probeQuery?_none text htarget] at hprobe
    exact ⟨_, isReady_started driver text none hprobe, .inl (by rw [hrun])⟩
  | abandoned target query htarget hprobe hlate hrun =>
    rw [← probeQuery?_none text htarget] at hprobe
    exact ⟨_, isReady_probed driver text none hprobe, .inl (by rw [hrun])⟩
  | refused target query e htarget hprobe hlate hread hrun =>
    rw [← probeQuery?_none text htarget] at hprobe
    exact ⟨_, isReady_probed driver text none hprobe, .inl (by rw [hrun])⟩
  | answered target query list htarget hprobe hlate hread hrun =>
    rw [← probeQuery?_none text htarget] at hprobe
    exact ⟨_, isReady_probed driver text none hprobe, .inr ⟨target, list, hrun⟩⟩
  | supplied target list htarget hrun =>
    exact ⟨_, isReady_started driver text (some list) rfl, .inr ⟨target, list, hrun⟩⟩

/-- What a calculation leaves of warnings before it is closed. -/
theorem noted_attempted (hquiet : engine.IsQuiet) :
    let attempted := engine.attempted driver text rows
    Noted (fun key => key = (.subqueryFailed, .ofText text) ∧
        engine.Suffers driver text rows .subqueryFailed) attempted.2.trace.calls
      attempted.2.trace.records engine.given attempted.2.given := by
  intro attempted
  obtain ⟨p, hp, hstop | ⟨target, list, hrun⟩⟩ := exists_isReady driver text rows hquiet
  · refine noted_of_isReady driver text rows hp ?_
    rw [hstop]
    exact (Law.noted driver (.ofText text)).refl p
  · have hrelates := @Setting.noted_relates (engine.setting driver (.ofText text)) driver
      (.ofText text) hquiet rfl rfl target.subqueries
    refine noted_of_isReady driver text rows hp ?_
    rw [hrun]
    exact relates_overRows target hrelates list p

/-- Closing warns of a failure. -/
theorem noted_close {setting : Setting} (hquiet : setting.sink.IsQuiet) (driver : Driver)
    (subject : Subject) (result : Except Failure Verdict) (p : Progress) :
    let q := ((close setting driver subject result).run p).2
    ∃ states records, q.trace.calls = p.trace.calls ++ states ∧
      q.trace.records = p.trace.records ++ records ∧
      Noted (fun key => key.2 = subject.fingerprint ∧
        (Run.failure? result).map Warning.ofFailure = some key.1) states records p.given
        q.given := by
  have htell := Run.run_tell setting.sink (closing result) p
  rw [hquiet] at htell
  cases result with
  | ok v =>
    have hrun : (close setting driver subject (.ok v)).run p = _ := Run.run_bind_of_ok htell
    rw [hrun]
    refine ⟨[], [], (List.append_nil _).symm, (List.append_nil _).symm,
      (Noted.of_queries (by simp) p.given).congr fun key => ?_⟩
    simp [Run.failure?]
  | error f =>
    obtain ⟨q, states, records, hwarn, -, hstates, -, hrecords, hnoted⟩ :=
      @Run.noted_warnOnce (.ofFailure f) subject driver
        (fun state => .warning (.ofFailure f) (some subject) none f.described
          (state.getD "<dump_state panicked>")) (fun _ _ => rfl) (fun _ => rfl)
        (Run.told p (closing (.error f)))
    have hrun : (close setting driver subject (.error f)).run p = (.ok .failure, q) :=
      (Run.run_bind_of_ok htell).trans (Run.run_bind_of_ok hwarn)
    rw [hrun]
    refine ⟨states, records, hstates, hrecords, hnoted.congr fun key => ?_⟩
    simp [Run.failure?, Prod.ext_iff, and_comm, eq_comm]

/-- Each warning of a calculation is given if there is reason for it, and logged unless it was given
before. -/
theorem noted_calculate (hquiet : engine.IsQuiet) :
    let calculation := engine.calculate driver text rows
    Noted (fun key => key.2 = .ofText text ∧ engine.Suffers driver text rows key.1)
      calculation.trace.calls calculation.trace.records engine.given
      calculation.engine.given := by
  intro calculation
  have hattempted := noted_attempted driver text rows hquiet
  obtain ⟨states, records, hcalls, hrecords, hclosed⟩ :
      ∃ states records, calculation.trace.calls =
          (engine.attempted driver text rows).2.trace.calls ++ states ∧
        calculation.trace.records =
          (engine.attempted driver text rows).2.trace.records ++ records ∧
        Noted (fun key => key.2 = .ofText text ∧
          (Run.failure? (engine.attempted driver text rows).1).map Warning.ofFailure =
            some key.1) states records (engine.attempted driver text rows).2.given
          calculation.engine.given :=
    @noted_close (engine.setting driver (.ofText text)) hquiet driver (.ofText text) _ _
  rw [hcalls, hrecords]
  refine (hattempted.trans hclosed).congr fun key => ?_
  rcases key with ⟨kind, f⟩
  -- the warning of a failed subquery is given before closing, all others by closing
  by_cases hkind : kind = .subqueryFailed
  · have hother : (Run.failure? (engine.attempted driver text rows).1).map Warning.ofFailure ≠
        some .subqueryFailed := by
      cases Run.failure? (engine.attempted driver text rows).1 with
      | none => exact nofun
      | some g => exact fun h => Warning.ofFailure_ne_subqueryFailed g (Option.some.inj h)
    simp [hkind, hother]
  · simp [hkind, suffers_iff driver text rows hquiet hkind]

end Engine

/-! ### Sessions -/

namespace Engine

/-- In some actions there is reason for a warning about a condition text. -/
def Occurs (engine : Engine) (actions : List Action) (key : WarningKey) : Prop :=
  ∃ before driver text rows later, actions = before ++ .calculate driver text rows :: later ∧
    key.2 = .ofText text ∧ (engine.after before).Suffers driver text rows key.1

variable {engine : Engine} {action : Action} {rest : List Action} {key : WarningKey}

theorem not_occurs_nil : ¬ engine.Occurs [] key := by
  rintro ⟨before, driver, text, rows, later, h, -⟩
  cases before <;> cases h

theorem occurs_cons :
    engine.Occurs (action :: rest) key ↔
      (∃ driver text rows, action = .calculate driver text rows ∧ key.2 = .ofText text ∧
        engine.Suffers driver text rows key.1) ∨ (engine.perform action).Occurs rest key := by
  constructor
  · rintro ⟨before, driver, text, rows, later, h, hkey, hsuffers⟩
    cases before with
    | nil =>
      obtain ⟨rfl, -⟩ := List.cons.inj h
      exact .inl ⟨driver, text, rows, rfl, hkey, hsuffers⟩
    | cons first before =>
      obtain ⟨rfl, rfl⟩ := List.cons.inj h
      exact .inr ⟨before, driver, text, rows, later, rfl, hkey, hsuffers⟩
  · rintro (⟨driver, text, rows, rfl, hkey, hsuffers⟩ |
      ⟨before, driver, text, rows, later, rfl, hkey, hsuffers⟩)
    · exact ⟨[], driver, text, rows, rest, rfl, hkey, hsuffers⟩
    · exact ⟨action :: before, driver, text, rows, later, rfl, hkey, hsuffers⟩

/-- The calls of the calculations among some actions. -/
def callsOf (engine : Engine) (actions : List Action) : List Call :=
  (engine.calculations actions).flatMap (·.trace.calls)

/-- The records of the calculations among some actions. -/
def recordsOf (engine : Engine) (actions : List Action) : List Record :=
  (engine.calculations actions).flatMap (·.trace.records)

/-- As long as nothing is reset, each warning is given if there is reason for it, and logged unless
it was given before. -/
theorem noted_after (hquiet : engine.IsQuiet) {actions : List Action} (hreset : .reset ∉ actions) :
    Noted (engine.Occurs actions) (engine.callsOf actions) (engine.recordsOf actions) engine.given
      (engine.after actions).given := by
  induction actions generalizing engine with
  | nil =>
    change Noted _ [] [] engine.given engine.given
    exact (Noted.of_queries (by simp) engine.given).congr fun key => by simp [not_occurs_nil]
  | cons action rest ih =>
    have hquiet' : (engine.perform action).IsQuiet := by rwa [IsQuiet, observer_perform]
    have hrest := ih hquiet' fun h => hreset (List.mem_cons_of_mem action h)
    cases action with
    | calculate driver text rows =>
      refine ((noted_calculate driver text rows hquiet).trans hrest).congr fun key => ?_
      rw [occurs_cons]
      refine or_congr_left ⟨fun ⟨hkey, h⟩ => ⟨driver, text, rows, rfl, hkey, h⟩, ?_⟩
      rintro ⟨_, _, _, heq, hkey, h⟩
      cases heq
      exact ⟨hkey, h⟩
    | report | clearCache =>
      refine hrest.congr fun key => ?_
      rw [occurs_cons]
      exact ⟨.inr, fun h => h.resolve_left (by rintro ⟨_, _, _, heq, -⟩; cases heq)⟩
    | reset => exact absurd List.mem_cons_self hreset

/-- In every session the driver is asked for its state once for each warning. -/
theorem states_eq (hquiet : engine.IsQuiet) (actions : List Action) :
    (engine.callsOf actions).count .dumpState =
      (engine.recordsOf actions).countP Record.isWarning := by
  have hsingle : ∀ c ∈ engine.calculations actions,
      c.trace.calls.count .dumpState = c.trace.records.countP Record.isWarning := by
    refine forall_calculations (fun e _ hobserver driver text rows => ?_) actions
    have hquiet' : e.IsQuiet := by rwa [IsQuiet, hobserver]
    exact (noted_calculate driver text rows hquiet').states
  unfold callsOf recordsOf
  rw [List.count_flatMap, List.countP_flatMap]
  exact congrArg List.sum (List.map_congr_left hsingle)

/-- Between two resets each warning about a condition text is logged once if there is reason for it
and never otherwise, and at all times the driver is asked for its state once for each warning. -/
theorem warned_once :
    (∀ (engine : Engine) (segment : List Action), engine.IsQuiet → .reset ∉ segment →
      ∀ key, (engine.reset.Occurs segment key →
          (engine.reset.recordsOf segment).countP (·.isOf key) = 1) ∧
        (¬ engine.reset.Occurs segment key →
          (engine.reset.recordsOf segment).countP (·.isOf key) = 0)) ∧
    ∀ (engine : Engine) (actions : List Action), engine.IsQuiet →
      (engine.callsOf actions).count .dumpState =
        (engine.recordsOf actions).countP Record.isWarning := by
  refine ⟨fun engine segment hquiet hreset key => ?_,
    fun engine actions hquiet => states_eq hquiet actions⟩
  have hquiet' : engine.reset.IsQuiet := hquiet
  exact (noted_after hquiet' hreset).countP_of_nil key

/-- A subquery that fails for two rows and once more after the cache is cleared. -/
theorem warned_once_subquery :
    let driver : Driver := {
      execute := fun _ _ _ => ⟨.panic, 2⟩
      dumpState := fun _ => none }
    let engine : Engine := { config := {} }
    let text := "NOT EXISTS (SELECT 1 FROM t)"
    let segment : List Action := [.calculate driver text (some [.empty, .empty]), .clearCache,
      .calculate driver text (some [.empty])]
    let records := engine.reset.recordsOf segment
    engine.IsQuiet ∧ .reset ∉ segment ∧
      records.countP (·.isOf (.subqueryFailed, .ofText text)) = 1 ∧
      records.countP (·.isOf (.calculateFailed, .ofText text)) = 0 ∧
      (engine.callsOf segment).count .dumpState =
        (engine.recordsOf segment).countP Record.isWarning := by
  intro driver engine text segment records
  have hquiet : engine.IsQuiet := fun _ => rfl
  have hreset : .reset ∉ segment := by simp [segment]
  have hfailed : engine.reset.Occurs segment (.subqueryFailed, .ofText text) :=
    ⟨[], driver, text, some [.empty, .empty], _, rfl, rfl, ⟨[], "SELECT 1 FROM t", some 1000⟩,
      by decide +kernel, by decide, by decide, nofun⟩
  have hother : ¬ engine.reset.Occurs segment (.calculateFailed, .ofText text) := by
    simp [segment, occurs_cons, not_occurs_nil, Suffers]
  exact ⟨hquiet, hreset, (warned_once.1 engine segment hquiet hreset _).1 hfailed,
    (warned_once.1 engine segment hquiet hreset _).2 hother, warned_once.2 engine segment hquiet⟩

end Engine

end BranchDistance
