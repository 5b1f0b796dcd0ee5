import BranchDistance.Proofs.Evaluate.Congruence
import BranchDistance.Proofs.Evaluate.Inquiry

/-!
# The queries of an evaluation

With a sink that never panics a query is told and then asked (`Setting.run_query`), and an
evaluation tells nothing else.  `Account` says what this leaves in the
trace: one event for each query, in the same order, and no query after one that timed out
(`Setting.account_relates`).
-/

namespace BranchDistance

/-- The sink never panics. -/
def Sink.IsQuiet (sink : Sink) : Prop := ∀ event, sink.panic? event = none

/-! ### One query -/

namespace Setting

variable (setting : Setting)

/-- Tells of a query and asks it. -/
def query (kind : QueryKind) (driver : Driver) (query : String) :
    Run (Except DriverError (List Row)) := do
  setting.check
  Run.tell setting.sink (.query kind)
  setting.ask driver query

/-- The state when the reply to a query is there. -/
def queried (kind : QueryKind) (driver : Driver) (query : String) (p : Progress) : Progress :=
  setting.answered driver query (Run.told p (.query kind))

/-- The place of a query that is asked in a state. -/
def inquiry (query : String) (p : Progress) : Inquiry :=
  ⟨p.trace.calls, query, setting.deadline.remaining? p.elapsed⟩

/-- The query is given up, or its reply comes too late. -/
def comesLate (driver : Driver) (i : Inquiry) (q : Progress) : Bool :=
  (i.reply driver).answer.isTimeout || setting.deadline.isExpired q.elapsed

variable {setting}

/-- The deadline is over when the reply is there exactly if the reply outlasts the budget. -/
theorem isExpired_elapsed_queried (kind : QueryKind) (driver : Driver) (query : String)
    (p : Progress) :
    setting.deadline.isExpired (setting.queried kind driver query p).elapsed =
      (setting.inquiry query p).isLate driver :=
  (setting.deadline.isExpired_remaining? p.elapsed _).symm

/-- A query that is neither given up nor too late has its answer. -/
theorem run_query {kind : QueryKind} (hquiet : setting.sink.panic? (.query kind) = none)
    (driver : Driver) (query : String) (p : Progress) :
    (setting.query kind driver query).run p =
      if setting.deadline.isExpired p.elapsed then (.error (.deadline p.elapsed), p)
      else
        let i := setting.inquiry query p
        let q := setting.queried kind driver query p
        if setting.comesLate driver i q then (.error (.deadline q.elapsed), q)
        else (.ok ((i.reply driver).answer.read query), q) := by
  unfold Setting.query
  rw [run_check_bind]
  by_cases hp : setting.deadline.isExpired p.elapsed = true
  · rw [if_pos hp, if_pos hp]
  · have htell : (Run.tell setting.sink (.query kind)).run p =
        (.ok (), Run.told p (.query kind)) := by
      rw [Run.run_tell, hquiet]
    rw [if_neg hp, if_neg hp, Run.run_bind_of_ok htell, run_ask]
    exact if_neg hp

/-- The rows of a subquery are those that its driver answers. -/
theorem subquery_eq {driver : Driver} (hd : setting.driver = some driver) (kind : QueryKind)
    (query : String) :
    setting.subquery kind query = setting.query kind driver query >>= fun
      | .ok rows => pure (some rows)
      | .error e => do
        setting.warnOfSubquery query e (return (← Run.dumpState driver).getD "")
        return none := by
  unfold subquery Setting.query
  rw [hd]
  exact ((bind_assoc _ _ _).trans (congrArg _ (funext fun _ => bind_assoc _ _ _))).symm

/-- A driver answers a query with some rows, and the deadline is not over when they are there. -/
structure Brings (setting : Setting) (kind : QueryKind) (query : String) (p : Progress)
    (driver : Driver) (rows : List Row) : Prop where
  attached : setting.driver = some driver
  quiet : setting.sink.panic? (.query kind) = none
  answer : ((setting.inquiry query p).reply driver).answer = .rows rows
  inTime : setting.deadline.isExpired (setting.queried kind driver query p).elapsed = false

namespace Brings

variable {kind : QueryKind} {query : String} {p : Progress} {driver : Driver} {rows : List Row}

theorem isExpired_eq_false (h : setting.Brings kind query p driver rows) :
    setting.deadline.isExpired p.elapsed = false :=
  Deadline.isExpired_of_le (Nat.le_add_right _ _) h.inTime

theorem run_subquery (h : setting.Brings kind query p driver rows) :
    (setting.subquery kind query).run p =
      (.ok (some rows), setting.queried kind driver query p) := by
  have hlate : setting.comesLate driver (setting.inquiry query p)
      (setting.queried kind driver query p) = false := by
    rw [comesLate, h.answer, h.inTime]
    rfl
  have hquery : (setting.query kind driver query).run p =
      (.ok (.ok rows), setting.queried kind driver query p) := by
    rw [run_query h.quiet, h.isExpired_eq_false, if_neg Bool.false_ne_true]
    simp only [hlate, h.answer]
    rfl
  rw [subquery_eq h.attached, Run.run_bind_of_ok hquery]
  rfl

end Brings

end Setting

/-! ### Warnings on the side -/

namespace Law

/-- Nothing is told, no time passes, and the driver is asked for nothing but its state. -/
def aside : Law where
  Holds p f q := f = none ∧ q.elapsed = p.elapsed ∧ q.trace.events = p.trace.events ∧
    ∃ dumps, q.trace.calls = p.trace.calls ++ dumps ∧ ∀ c ∈ dumps, c = .dumpState
  refl p := ⟨rfl, rfl, rfl, [], (List.append_nil _).symm, by simp⟩
  trans := by
    rintro p q r f ⟨-, helapsed, hevents, dumps, hcalls, hdumps⟩
      ⟨hf, helapsed', hevents', dumps', hcalls', hdumps'⟩
    refine ⟨hf, helapsed'.trans helapsed, hevents'.trans hevents, dumps ++ dumps', ?_, ?_⟩
    · rw [hcalls', hcalls, List.append_assoc]
    · exact List.forall_mem_append.2 ⟨hdumps, hdumps'⟩

theorem aside_claim (kind : Warning) (subject : Option Subject) :
    aside.Covers (Run.claim kind subject) := by
  intro p
  obtain ⟨due, given, h⟩ := Run.run_claim kind subject p
  rw [h]
  exact aside.refl p

theorem aside_dumpState (driver : Driver) : aside.Covers (Run.dumpState driver) :=
  fun _ => ⟨rfl, rfl, rfl, [.dumpState], rfl, by simp⟩

theorem aside_log (record : Record) : aside.Covers (Run.log record) := fun p => aside.refl p

theorem aside_warnOfSubquery (setting : Setting) (query : String) (e : DriverError)
    {state : Run String} (hstate : aside.Covers state) :
    aside.Covers (setting.warnOfSubquery query e state) := by
  refine covers_bind (aside_claim _ _) fun due => ?_
  cases due with
  | false => exact covers_pure ()
  | true => exact covers_bind hstate fun text => aside_log _

/-- A warning of a subquery with the state of the driver. -/
theorem aside_warnWithState (setting : Setting) (driver : Driver) (query : String)
    (e : DriverError) :
    aside.Covers
      (setting.warnOfSubquery query e (return (← Run.dumpState driver).getD "")) :=
  aside_warnOfSubquery setting query e
    (covers_bind (aside_dumpState driver) fun _ => covers_pure _)

end Law

/-! ### Accounts -/

/-- A query that is given up is the last and stops the run.  As long as there is time, nothing else
stops it so. -/
structure Inquiry.StopAt (driver : Driver) (inTime stopped : Prop) (is : List Inquiry) :
    Prop where
  last : ∀ front i back, is = front ++ i :: back → i.TimesOut driver → stopped ∧ back = []
  stops : inTime → stopped → ∃ i ∈ is, i.TimesOut driver

namespace Inquiry.StopAt

variable {driver : Driver} {inTime stopped : Prop} {is is' : List Inquiry}

theorem nil (h : inTime → ¬ stopped) : StopAt driver inTime stopped [] where
  last front i back heq := by cases front <;> cases heq
  stops htime hs := absurd hs (h htime)

theorem singleton {i : Inquiry} (hi : i.TimesOut driver → stopped)
    (hs : inTime → stopped → i.TimesOut driver) : StopAt driver inTime stopped [i] where
  last front j back heq hj := by
    cases front with
    | nil =>
      cases heq
      exact ⟨hi hj, rfl⟩
    | cons k front => cases front <;> cases heq
  stops htime h := ⟨i, List.mem_cons_self, hs htime h⟩

/-- A run that goes on has no query that is given up. -/
theorem goesOn (h : StopAt driver inTime stopped is) (hs : ¬ stopped) {i : Inquiry} (hi : i ∈ is) :
    ¬ i.TimesOut driver := by
  intro htimeout
  obtain ⟨front, back, heq⟩ := List.append_of_mem hi
  exact hs (h.last front i back heq htimeout).1

theorem append (h : ∀ i ∈ is, ¬ i.TimesOut driver) (h' : StopAt driver inTime stopped is') :
    StopAt driver inTime stopped (is ++ is') where
  last front i back heq hi := by
    obtain ⟨more, -, his'⟩ | ⟨more, his, hback⟩ := List.append_eq_append_iff.1 heq
    · exact h'.last more i back his' hi
    · -- the query is one of the second part, since those of the first are answered
      cases more with
      | nil => exact h'.last [] i back hback.symm hi
      | cons j more =>
        obtain ⟨rfl, -⟩ := List.cons.inj hback
        exact absurd hi (h i (by simp [his]))
  stops htime hs := by
    obtain ⟨i, hi, htimeout⟩ := h'.stops htime hs
    exact ⟨i, List.mem_append_right is hi, htimeout⟩

/-- In time a run has stopped exactly if some query was given up. -/
theorem stopped_iff (h : StopAt driver inTime stopped is) (htime : inTime) :
    stopped ↔ ∃ i ∈ is, i.TimesOut driver := by
  constructor
  · exact h.stops htime
  · rintro ⟨i, hi, htimeout⟩
    by_contra hs
    exact h.goesOn hs hi htimeout

end Inquiry.StopAt

/-- What a run leaves in the trace: the kinds of its queries, and its calls. -/
structure Account (driver : Driver) (deadline : Deadline) (qs : List (QueryKind × String))
    (kinds : List QueryKind) (new : List Call) (p : Progress) (f : Option Failure)
    (q : Progress) : Prop where
  events : q.trace.events = p.trace.events ++ kinds.map .query
  calls : q.trace.calls = p.trace.calls ++ new
  /-- The events are those of the queries, each of which is one of some that may be asked. -/
  served : List.Forall₂ (fun kind i => (kind, i.query) ∈ qs) kinds
    (Inquiry.among p.trace.calls new)
  /-- What stops the run by a failure of that class. -/
  stop : Inquiry.StopAt driver (deadline.isExpired q.elapsed = false)
    (f.map Failure.kind = some .timeout) (Inquiry.among p.trace.calls new)

namespace Account

variable {driver : Driver} {deadline : Deadline} {qs qs' : List (QueryKind × String)}
  {kinds kinds' : List QueryKind} {new new' : List Call} {p q r : Progress}
  {f : Option Failure}

theorem mono (h : Account driver deadline qs kinds new p f q) (hsub : ∀ k ∈ qs, k ∈ qs') :
    Account driver deadline qs' kinds new p f q :=
  { h with served := h.served.imp fun _ _ hk => hsub _ hk }

/-- Each event is one of a query that may be asked. -/
theorem mem_of_kind (h : Account driver deadline qs kinds new p f q) {kind : QueryKind}
    (hkind : kind ∈ kinds) : ∃ query, (kind, query) ∈ qs := by
  obtain ⟨n, hn, rfl⟩ := List.getElem_of_mem hkind
  have hlength := h.served.length_eq
  exact ⟨_, List.forall₂_iff_get.1 h.served |>.2 n hn (hlength ▸ hn)⟩

/-- A run without queries that is not stopped by a timeout. -/
theorem idle {dumps : List Call} (hevents : q.trace.events = p.trace.events)
    (hcalls : q.trace.calls = p.trace.calls ++ dumps) (hdumps : ∀ c ∈ dumps, c = .dumpState)
    (hf : f.map Failure.kind ≠ some .timeout) : Account driver deadline qs [] dumps p f q := by
  have hnone : Inquiry.among p.trace.calls dumps = [] := Inquiry.among_dumps hdumps _
  refine ⟨by simpa using hevents, hcalls, ?_, ?_⟩
  · rw [hnone]
    exact .nil
  · rw [hnone]
    exact .nil fun _ => hf

/-- A run that leaves the trace as it is, and is not stopped by a timeout. -/
theorem of_trace_eq (h : q.trace = p.trace) (hf : f.map Failure.kind ≠ some .timeout) :
    Account driver deadline qs [] [] p f q :=
  idle (by rw [h]) (by rw [h, List.append_nil]) (by simp) hf

/-- A run that ends when the deadline is over. -/
theorem expired (h : deadline.isExpired p.elapsed = true) :
    Account driver deadline qs [] [] p f p where
  events := by simp
  calls := (List.append_nil _).symm
  served := .nil
  stop := .nil fun hp => absurd h (Bool.eq_false_iff.1 hp)

theorem trans (h : Account driver deadline qs kinds new p none q)
    (h' : Account driver deadline qs kinds' new' q f r) :
    Account driver deadline qs (kinds ++ kinds') (new ++ new') p f r where
  events := by rw [h'.events, h.events, List.map_append, List.append_assoc]
  calls := by rw [h'.calls, h.calls, List.append_assoc]
  served := by
    rw [Inquiry.among_append, ← h.calls]
    exact List.rel_append h.served h'.served
  stop := by
    rw [Inquiry.among_append, ← h.calls]
    -- the first run goes on, so none of its queries was given up
    exact .append (fun i => h.stop.goesOn (by simp)) h'.stop

end Account

/-- A run has an account. -/
def Law.account (driver : Driver) (deadline : Deadline) (qs : List (QueryKind × String)) : Law where
  Holds p f q := ∃ kinds new, Account driver deadline qs kinds new p f q
  refl p := ⟨[], [], .of_trace_eq rfl (by simp)⟩
  trans := by
    rintro p q r f ⟨kinds, new, h⟩ ⟨kinds', new', h'⟩
    exact ⟨_, _, h.trans h'⟩

/-- The account of a run on the side is empty. -/
theorem Law.account_of_aside {driver : Driver} {deadline : Deadline}
    {qs : List (QueryKind × String)} {r : Run Unit} (h : aside.Covers r) :
    (account driver deadline qs).Covers r := by
  intro p
  obtain ⟨hnone, -, hevents, dumps, hcalls, hdumps⟩ := h p
  rw [hnone]
  exact ⟨[], dumps, .idle hevents hcalls hdumps (by simp)⟩

namespace Setting

variable {setting : Setting} {driver : Driver} {qs : List (QueryKind × String)}

/-- The account of one query. -/
theorem account_queried {kind : QueryKind} {query : String} (hq : (kind, query) ∈ qs)
    {p : Progress} {f : Option Failure}
    (hf : f.map Failure.kind = some .timeout ↔
      setting.comesLate driver (setting.inquiry query p) (setting.queried kind driver query p)) :
    Account driver setting.deadline qs [kind]
      [.execute query (setting.deadline.remaining? p.elapsed)] p f
      (setting.queried kind driver query p) where
  events := rfl
  calls := rfl
  served := .cons hq .nil
  stop := by
    refine .singleton (fun hi => hf.2 (Bool.or_eq_true_iff.2 (.inl hi))) fun htime hs => ?_
    exact (Bool.or_eq_true_iff.1 (hf.1 hs)).resolve_right (Bool.eq_false_iff.1 htime)

theorem account_query (hquiet : setting.sink.IsQuiet) {kind : QueryKind} {query : String}
    (hq : (kind, query) ∈ qs) :
    (Law.account driver setting.deadline qs).Covers (setting.query kind driver query) := by
  intro p
  rw [run_query (hquiet _)]
  by_cases hp : setting.deadline.isExpired p.elapsed = true
  · rw [if_pos hp]
    exact ⟨_, _, .expired hp⟩
  · rw [if_neg hp]
    dsimp only
    split
    · next hlate =>
      exact ⟨_, _, account_queried hq (by simp [hlate, Run.failure?, Failure.deadline])⟩
    · next hlate => exact ⟨_, _, account_queried hq (by simp [hlate, Run.failure?])⟩

/-- An evaluation has an account of its subqueries. -/
theorem account_relates (hquiet : setting.sink.IsQuiet)
    (hd : ∀ d, setting.driver = some d → d = driver) (qs : List (QueryKind × String)) :
    (Law.account driver setting.deadline qs).congruence.Relates setting setting qs where
  scores := .refl _
  check p := by
    rw [run_check]
    split
    · next hp => exact ⟨_, _, .expired hp⟩
    · exact Law.refl _ p
  subquery kind query hq := by
    cases hsome : setting.driver with
    | none =>
      -- nothing is told and nobody is asked
      change Law.Covers _ (setting.subquery kind query)
      unfold subquery
      rw [hsome]
      have hwarn := Law.aside_warnOfSubquery setting query Driver.unattachedError
        (Law.covers_pure "")
      exact Law.covers_bind (Law.account_of_aside hwarn) fun _ => Law.covers_pure none
    | some d =>
      obtain rfl := hd d hsome
      change Law.Covers _ (setting.subquery kind query)
      rw [subquery_eq hsome]
      refine Law.covers_bind (account_query hquiet hq) fun result => ?_
      cases result with
      | ok rows => exact Law.covers_pure _
      | error e =>
        have hwarn := Law.aside_warnWithState setting d query e
        exact Law.covers_bind (Law.account_of_aside hwarn) fun _ => Law.covers_pure none
  pause p := ⟨[], [], .of_trace_eq rfl (by simp [Run.failure?])⟩

end Setting

end BranchDistance
