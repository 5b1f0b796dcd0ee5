import BranchDistance.Proofs.Evaluate.Query

/-!
# The warnings of an evaluation

A warning is claimed before the driver is asked for its state, and then logged.  So for every kind
of warning and every condition text a run logs one record if the warning was not given before and
is given after it, and else none; and it asks for one state with each record (`Noted`).

An evaluation gives one warning at most, that of a failed subquery, and it does so exactly if a
subquery fails and the warning was not given before (`Setting.noted_relates`).
-/

namespace BranchDistance

/-- A warning and the text that it is about. -/
abbrev WarningKey := Warning × Fingerprint

/-- Whether a record is one of a given warning. -/
def Record.isOf (key : WarningKey) : Record → Bool
  | .warning kind (some subject) .. => key == (kind, subject.fingerprint)
  | .warning _ none .. => false
  | .aborted _ => false

/-- Whether a record is a warning. -/
def Record.isWarning (record : Record) : Bool := record.level == .warn

/-! ### What becomes of warnings -/

/-- Some warnings occur: each is given from then on, and logged unless it was given before.  With
each record the driver is asked for its state once. -/
structure Noted (occurs : WarningKey → Prop) (calls : List Call) (records : List Record)
    (before after : Given) : Prop where
  given : ∀ key, key ∈ after ↔ key ∈ before ∨ occurs key
  once : ∀ key, records.countP (·.isOf key) + (if key ∈ before then 1 else 0) =
    if key ∈ after then 1 else 0
  states : calls.count .dumpState = records.countP Record.isWarning

namespace Noted

variable {occurs occurs' : WarningKey → Prop} {calls calls' : List Call}
  {records records' : List Record} {before after later : Given}

theorem congr (h : Noted occurs calls records before after)
    (hiff : ∀ key, occurs key ↔ occurs' key) : Noted occurs' calls records before after :=
  { h with given := fun key => (h.given key).trans (or_congr_right (hiff key)) }

/-- Queries alone are no warnings. -/
theorem of_queries (hcalls : ∀ c ∈ calls, c ≠ .dumpState) (given : Given) :
    Noted (fun _ => False) calls [] given given where
  given _ := (or_false _).symm ▸ Iff.rfl
  once _ := Nat.zero_add _
  states := List.count_eq_zero.2 fun h => hcalls _ h rfl

theorem trans (h : Noted occurs calls records before after)
    (h' : Noted occurs' calls' records' after later) :
    Noted (fun key => occurs key ∨ occurs' key) (calls ++ calls') (records ++ records') before
      later where
  given key := by rw [h'.given, h.given, or_assoc]
  once key := by
    have honce := h.once key
    have honce' := h'.once key
    rw [List.countP_append]
    omega
  states := by rw [List.count_append, List.countP_append, h.states, h'.states]

/-- Of warnings that were not given before those that occur are logged once, and no others. -/
theorem countP_of_nil (h : Noted occurs calls records [] after) (key : WarningKey) :
    (occurs key → records.countP (·.isOf key) = 1) ∧
      (¬ occurs key → records.countP (·.isOf key) = 0) := by
  have honce := h.once key
  have hgiven : key ∈ after ↔ occurs key := by simpa using h.given key
  rw [if_neg List.not_mem_nil, Nat.add_zero] at honce
  constructor
  · intro hoccurs
    rw [honce, if_pos (hgiven.2 hoccurs)]
  · intro hnone
    rw [honce, if_neg fun hmem => hnone (hgiven.1 hmem)]

end Noted

/-! ### One warning -/

namespace Run

/-- A state with a warning more. -/
def warned (p : Progress) (key : WarningKey) (record : Record) : Progress :=
  logged { called p .dumpState with given := key :: p.given } record

/-- Warns with the state of a driver, unless the warning has been given. -/
def warnOnce (kind : Warning) (subject : Subject) (driver : Driver)
    (record : Option String → Record) : Run Unit := do
  if ← claim kind (some subject) then
    let state ← dumpState driver
    log (record state)

theorem run_warnOnce (kind : Warning) (subject : Subject) (driver : Driver)
    (record : Option String → Record) (p : Progress) :
    (warnOnce kind subject driver record).run p =
      if (kind, subject.fingerprint) ∈ p.given then (.ok (), p)
      else (.ok (),
        warned p (kind, subject.fingerprint) (record (driver.dumpState p.trace.calls))) := by
  have hclaim := run_claim_some kind subject p
  unfold warnOnce
  by_cases h : (kind, subject.fingerprint) ∈ p.given
  · rw [if_pos (List.contains_iff_mem.2 h)] at hclaim
    rw [if_pos h, run_bind_of_ok hclaim]
    rfl
  · rw [if_neg (mt List.contains_iff_mem.1 h)] at hclaim
    rw [if_neg h, run_bind_of_ok hclaim]
    rfl

/-- What a warning leaves in the trace. -/
theorem noted_warnOnce {kind : Warning} {subject : Subject} {driver : Driver}
    {record : Option String → Record}
    (hrecord : ∀ state key, (record state).isOf key = (key == (kind, subject.fingerprint)))
    (hlevel : ∀ state, (record state).isWarning = true) (p : Progress) :
    ∃ q states records, (warnOnce kind subject driver record).run p = (.ok (), q) ∧
      q.trace.events = p.trace.events ∧
      q.trace.calls = p.trace.calls ++ states ∧ (∀ c ∈ states, c = .dumpState) ∧
      q.trace.records = p.trace.records ++ records ∧
      Noted (· = (kind, subject.fingerprint)) states records p.given q.given := by
  rw [run_warnOnce]
  split
  · next h =>
    refine ⟨p, [], [], rfl, rfl, by simp, by simp, by simp, ⟨fun key => ?_, by simp, rfl⟩⟩
    constructor
    · exact .inl
    · rintro (hkey | rfl)
      · exact hkey
      · exact h
  · next h =>
    refine ⟨_, [.dumpState], [_], rfl, rfl, rfl, by simp, rfl,
      ⟨fun key => ?_, fun key => ?_, ?_⟩⟩
    · exact List.mem_cons.trans or_comm
    · change _ = if key ∈ (kind, subject.fingerprint) :: p.given then 1 else 0
      rw [List.countP_singleton, hrecord]
      by_cases hkey : key = (kind, subject.fingerprint)
      · simp [hkey, h]
      · simp [hkey]
    · simp [hlevel]

end Run

/-! ### Evaluations -/

/-- A query is answered within its budget, but neither by rows nor by a timeout. -/
structure Inquiry.Fails (driver : Driver) (i : Inquiry) : Prop where
  inTime : i.isLate driver = false
  answered : ¬ i.TimesOut driver
  norows : ∀ rows, (i.reply driver).answer ≠ .rows rows

/-- One of some subqueries fails. -/
def Inquiry.failedAmong (driver : Driver) (f : Fingerprint) (is : List Inquiry)
    (key : WarningKey) : Prop :=
  key = (.subqueryFailed, f) ∧ ∃ i ∈ is, i.Fails driver

theorem Inquiry.failedAmong_append {driver : Driver} {f : Fingerprint} {is is' : List Inquiry}
    {key : WarningKey} :
    failedAmong driver f (is ++ is') key ↔
      failedAmong driver f is key ∨ failedAmong driver f is' key := by
  simp only [failedAmong, List.mem_append, or_and_right, exists_or, and_or_left]

theorem Inquiry.failedAmong_singleton {driver : Driver} {f : Fingerprint} {i : Inquiry}
    {key : WarningKey} :
    failedAmong driver f [i] key ↔ key = (.subqueryFailed, f) ∧ i.Fails driver := by
  simp [failedAmong]

/-- A run gives the warning of a failed subquery. -/
def Law.noted (driver : Driver) (f : Fingerprint) : Law where
  Holds p _ q := ∃ calls records,
    q.trace.calls = p.trace.calls ++ calls ∧ q.trace.records = p.trace.records ++ records ∧
      Noted (Inquiry.failedAmong driver f (Inquiry.among p.trace.calls calls)) calls records
        p.given q.given
  refl p := by
    refine ⟨[], [], by simp, by simp, (Noted.of_queries (by simp) p.given).congr fun key => ?_⟩
    simp [Inquiry.failedAmong, Inquiry.among]
  trans := by
    rintro p q r f ⟨calls, records, hcalls, hrecords, hnoted⟩
      ⟨calls', records', hcalls', hrecords', hnoted'⟩
    refine ⟨calls ++ calls', records ++ records', by rw [hcalls', hcalls, List.append_assoc],
      by rw [hrecords', hrecords, List.append_assoc], (hnoted.trans hnoted').congr fun key => ?_⟩
    rw [Inquiry.among_append, Inquiry.failedAmong_append, hcalls]

namespace Setting

variable {setting : Setting} {driver : Driver} {subject : Subject}

theorem warnOfSubquery_eq (hsubject : setting.subject = some subject) (driver : Driver)
    (query : String) (e : DriverError) :
    setting.warnOfSubquery query e (return (← Run.dumpState driver).getD "") =
      Run.warnOnce .subqueryFailed subject driver fun state =>
        .warning .subqueryFailed (some subject) (some query) e.message (state.getD "") := by
  unfold warnOfSubquery Run.warnOnce
  rw [hsubject]
  simp only [bind_assoc, pure_bind]

/-- A query fails exactly if it is in time and its answer counts as an error. -/
theorem fails_inquiry_iff {kind : QueryKind} {query : String} {p : Progress} :
    (setting.inquiry query p).Fails driver ↔
      ¬ setting.comesLate driver (setting.inquiry query p) (setting.queried kind driver query p) ∧
        ∃ e, ((setting.inquiry query p).reply driver).answer.read query = .error e := by
  rw [comesLate, isExpired_elapsed_queried]
  constructor
  · rintro ⟨htime, hanswered, hnorows⟩
    refine ⟨by simp [htime, Bool.eq_false_iff.2 hanswered], ?_⟩
    cases hanswer : ((setting.inquiry query p).reply driver).answer with
    | rows list => exact absurd hanswer (hnorows list)
    | error e => exact ⟨e, rfl⟩
    | panic => exact ⟨_, rfl⟩
  · rintro ⟨hlate, e, hread⟩
    obtain ⟨hanswered, htime⟩ := Bool.or_eq_false_iff.1 (Bool.eq_false_iff.2 hlate)
    refine ⟨htime, Bool.eq_false_iff.1 hanswered, fun list hrows => ?_⟩
    rw [hrows] at hread
    cases hread

section Subquery

variable {kind : QueryKind} {query : String} {p : Progress}

/-- A query that does not fail gives no warning. -/
theorem noted_queried (h : ¬ (setting.inquiry query p).Fails driver) (result : Option Failure) :
    (Law.noted driver subject.fingerprint).Holds p result
      (setting.queried kind driver query p) := by
  refine ⟨[.execute query (setting.deadline.remaining? p.elapsed)], [], rfl,
    (List.append_nil _).symm, (Noted.of_queries (by simp) p.given).congr fun key => ?_⟩
  rw [Inquiry.among_execute, Inquiry.failedAmong_singleton]
  exact ⟨False.elim, fun hf => h hf.2⟩

/-- A query that fails gives its warning, unless it was given before. -/
theorem noted_refused (hsubject : setting.subject = some subject)
    (h : (setting.inquiry query p).Fails driver) (e : DriverError) (result : Option Failure) :
    (Law.noted driver subject.fingerprint).Holds p result
      ((do
        setting.warnOfSubquery query e (return (← Run.dumpState driver).getD "")
        return none : Run (Option (List Row))).run (setting.queried kind driver query p)).2 := by
  have hcalls : (setting.queried kind driver query p).trace.calls = p.trace.calls ++
      [.execute query (setting.deadline.remaining? p.elapsed)] := rfl
  obtain ⟨q, states, records, hrun, -, hstates, hdumps, hrecords, hnoted⟩ :=
    @Run.noted_warnOnce .subqueryFailed subject driver
      (fun state => .warning .subqueryFailed (some subject) (some query) e.message
        (state.getD "")) (fun _ _ => rfl) (fun _ => rfl) (setting.queried kind driver query p)
  rw [warnOfSubquery_eq hsubject, Run.run_bind_of_ok hrun]
  refine ⟨[.execute query (setting.deadline.remaining? p.elapsed)] ++ states, records, ?_,
    hrecords, ((Noted.of_queries (by simp) p.given).trans hnoted).congr fun key => ?_⟩
  · rw [Run.run_pure, hstates, hcalls, List.append_assoc]
  · rw [Inquiry.among_append, Inquiry.among_dumps hdumps, List.append_nil,
      Inquiry.among_execute, Inquiry.failedAmong_singleton]
    exact ⟨fun hkey => ⟨hkey.resolve_left id, h⟩, fun hkey => .inr hkey.1⟩

end Subquery

theorem noted_subquery (hquiet : setting.sink.IsQuiet) (hd : setting.driver = some driver)
    (hsubject : setting.subject = some subject) (kind : QueryKind) (query : String) :
    (Law.noted driver subject.fingerprint).Covers (setting.subquery kind query) := by
  intro p
  have hfails := @fails_inquiry_iff setting driver kind query p
  have hquery := run_query (hquiet (.query kind)) driver query p
  rw [subquery_eq hd]
  by_cases hexpired : setting.deadline.isExpired p.elapsed = true
  · rw [if_pos hexpired] at hquery
    rw [Run.run_bind_of_error hquery]
    exact (Law.noted driver _).refl p
  -- the query is asked; a reply that comes too late is no failure of the query
  rw [if_neg hexpired] at hquery
  dsimp only at hquery
  by_cases hlate : setting.comesLate driver (setting.inquiry query p)
      (setting.queried kind driver query p) = true
  · rw [if_pos hlate] at hquery
    rw [Run.run_bind_of_error hquery]
    exact noted_queried (fun h => (hfails.1 h).1 hlate) none
  rw [if_neg hlate] at hquery
  rw [Run.run_bind_of_ok hquery]
  cases hread : ((setting.inquiry query p).reply driver).answer.read query with
  | ok rows =>
    refine noted_queried (fun h => ?_) none
    obtain ⟨-, e, he⟩ := hfails.1 h
    rw [hread] at he
    cases he
  | error e => exact noted_refused hsubject (hfails.2 ⟨hlate, e, hread⟩) e none

/-- An evaluation gives the warning of a failed subquery. -/
theorem noted_relates (hquiet : setting.sink.IsQuiet) (hd : setting.driver = some driver)
    (hsubject : setting.subject = some subject) (qs : List (QueryKind × String)) :
    (Law.noted driver subject.fingerprint).congruence.Relates setting setting qs where
  scores := .refl _
  check p := by
    rw [run_check]
    split <;> exact (Law.noted driver _).refl p
  subquery kind query _ := noted_subquery hquiet hd hsubject kind query
  pause p := (Law.noted driver _).refl p

end Setting

end BranchDistance
