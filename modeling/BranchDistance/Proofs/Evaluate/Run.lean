import Mathlib
import BranchDistance.Evaluate.Run

/-!
# Laws of runs

A run goes from one state to another and may be given up on the way.  A `Law` says how the state
after a run is related to the one before it, knowing whether the run was given up; it holds of doing
nothing and of one run after another.  What a law says of the single steps it says of every run that
is built from them (`Law.covers_bind`).

The steps of a run are written out as equations: `run_check`, `run_tell`, `run_ask` and so on.
-/

namespace BranchDistance

variable {α β : Type}

namespace Run

theorem ext {r s : Run α} (h : ∀ p, r.run p = s.run p) : r = s := funext h

@[simp] theorem run_pure (a : α) (p : Progress) : (pure a : Run α).run p = (.ok a, p) := rfl

@[simp] theorem run_throw (f : Failure) (p : Progress) :
    (throw f : Run α).run p = (.error f, p) := rfl

@[simp] theorem run_get (p : Progress) : (get : Run Progress).run p = (.ok p, p) := rfl

@[simp] theorem run_modify (f : Progress → Progress) (p : Progress) :
    (modify f : Run Unit).run p = (.ok (), f p) := rfl

theorem run_bind (r : Run α) (next : α → Run β) (p : Progress) :
    (r >>= next).run p =
      match r.run p with
      | (.ok a, q) => (next a).run q
      | (.error f, q) => (.error f, q) := by
  change (ExceptT.bindCont next ((r.run p).1) : StateM Progress _) ((r.run p).2) = _
  rcases r.run p with ⟨_ | a, q⟩ <;> rfl

theorem run_bind_of_ok {r : Run α} {next : α → Run β} {p q : Progress} {a : α}
    (h : r.run p = (.ok a, q)) : (r >>= next).run p = (next a).run q := by
  rw [run_bind, h]

theorem run_bind_of_error {r : Run α} {next : α → Run β} {p q : Progress} {f : Failure}
    (h : r.run p = (.error f, q)) : (r >>= next).run p = (.error f, q) := by
  rw [run_bind, h]

/-! ### Steps -/

/-- A state with an event, a call or a record more. -/
def told (p : Progress) (event : Event) : Progress :=
  { p with trace := { p.trace with events := p.trace.events ++ [event] } }

@[inherit_doc told]
def called (p : Progress) (call : Call) : Progress :=
  { p with trace := { p.trace with calls := p.trace.calls ++ [call] } }

@[inherit_doc told]
def logged (p : Progress) (record : Record) : Progress :=
  { p with trace := { p.trace with records := p.trace.records ++ [record] } }

/-- A state after its next pause. -/
def paused (p : Progress) : Progress :=
  { p with elapsed := p.elapsed + p.pauses.headD 0, pauses := p.pauses.tail }

@[simp] theorem run_pause (p : Progress) : pause.run p = (.ok (), paused p) := rfl

@[simp] theorem run_noteCall (call : Call) (p : Progress) :
    (noteCall call).run p = (.ok (), called p call) := rfl

@[simp] theorem run_log (record : Record) (p : Progress) :
    (log record).run p = (.ok (), logged p record) := rfl

@[simp] theorem run_tell (sink : Sink) (event : Event) (p : Progress) :
    (tell sink event).run p =
      match sink.panic? event with
      | some panic => (.error (.panicked panic.text), told p event)
      | none => (.ok (), told p event) := by
  unfold tell
  cases sink.panic? event <;> rfl

@[simp] theorem run_dumpState (driver : Driver) (p : Progress) :
    (dumpState driver).run p = (.ok (driver.dumpState p.trace.calls), called p .dumpState) := rfl

@[simp] theorem run_claim_none (kind : Warning) (p : Progress) :
    (claim kind none).run p = (.ok true, p) := rfl

@[simp] theorem run_claim_some (kind : Warning) (s : Subject) (p : Progress) :
    (claim kind (some s)).run p =
      if p.given.contains (kind, s.fingerprint) then (.ok false, p)
      else (.ok true, { p with given := (kind, s.fingerprint) :: p.given }) := by
  unfold claim
  rw [run_bind_of_ok (run_get p)]
  dsimp only
  split <;> rfl

/-- Asking whether a warning is due changes only the list of the warnings given. -/
theorem run_claim (kind : Warning) (subject : Option Subject) (p : Progress) :
    ∃ due given, (claim kind subject).run p = (.ok due, { p with given }) := by
  cases subject with
  | none => exact ⟨true, p.given, rfl⟩
  | some s =>
    by_cases h : p.given.contains (kind, s.fingerprint) = true
    · exact ⟨false, p.given, by rw [run_claim_some, if_pos h]⟩
    · exact ⟨true, (kind, s.fingerprint) :: p.given, by rw [run_claim_some, if_neg h]⟩

end Run

/-! ### Time -/

theorem Deadline.isExpired_of_le {deadline : Deadline} {a b : Nat} (h : a ≤ b)
    (hb : deadline.isExpired b = false) : deadline.isExpired a = false := by
  rcases deadline with ⟨_ | limit⟩
  · rfl
  · simp only [isExpired, decide_eq_false_iff_not] at hb ⊢
    omega

/-- What is left of a deadline is over when the deadline is. -/
theorem Deadline.isExpired_remaining? (deadline : Deadline) (a b : Nat) :
    (Deadline.mk (deadline.remaining? a)).isExpired b = deadline.isExpired (a + b) := by
  rcases deadline with ⟨_ | limit⟩
  · rfl
  · simp only [isExpired, remaining?, Option.map_some, Nat.sub_le_iff_le_add, Nat.add_comm b]

namespace Answer

/-- Whether the driver gave the query up. -/
def isTimeout : Answer → Bool
  | error (.timeout _) => true
  | _ => false

/-- The rows of an answer, or the error that it counts as. -/
def read (query : String) : Answer → Except DriverError (List Row)
  | rows list => .ok list
  | error e => .error e
  | panic => .error (.execution query "driver panicked")

end Answer

namespace Setting

variable (setting : Setting)

@[simp] theorem run_check (p : Progress) :
    setting.check.run p =
      if setting.deadline.isExpired p.elapsed then (.error (.deadline p.elapsed), p)
      else (.ok (), p) := by
  unfold check
  rw [Run.run_bind_of_ok (Run.run_get p)]
  dsimp only
  split <;> rfl

theorem run_check_bind (next : Run α) (p : Progress) :
    (do setting.check; next).run p =
      if setting.deadline.isExpired p.elapsed then (.error (.deadline p.elapsed), p)
      else next.run p := by
  by_cases h : setting.deadline.isExpired p.elapsed = true
  · rw [if_pos h, Run.run_bind_of_error (by rw [run_check, if_pos h])]
  · rw [if_neg h, Run.run_bind_of_ok (by rw [run_check, if_neg h])]

/-- What a driver replies to a query in a state. -/
def replyTo (driver : Driver) (query : String) (p : Progress) : Reply :=
  driver.execute p.trace.calls query (setting.deadline.remaining? p.elapsed)

/-- The state after a driver has replied to a query. -/
def answered (driver : Driver) (query : String) (p : Progress) : Progress :=
  { Run.called p (.execute query (setting.deadline.remaining? p.elapsed)) with
    elapsed := p.elapsed + (setting.replyTo driver query p).latency }

/-- What becomes of an answer once it is there. -/
theorem run_answer (query : String) (answer : Answer) (q : Progress) :
    (match answer with
      | .error (.timeout _) => do throw (.deadline (← get).elapsed)
      | .error e => do setting.check; return .error e
      | .panic => do setting.check; return .error (.execution query "driver panicked")
      | .rows rows => do setting.check; return .ok rows :
        Run (Except DriverError (List Row))).run q =
      if answer.isTimeout || setting.deadline.isExpired q.elapsed then
        (.error (.deadline q.elapsed), q)
      else (.ok (answer.read query), q) := by
  rcases answer with rows | (_ | _ | _) | _
  -- only a timeout is not followed by another look at the deadline
  case error.timeout => rfl
  all_goals
    simp only [Answer.isTimeout, Bool.false_or]
    exact setting.run_check_bind (pure _) q

/-- An answer is dropped if the deadline is over once it is there, and a timeout counts as the end
of the deadline. -/
theorem run_ask (driver : Driver) (query : String) (p : Progress) :
    (setting.ask driver query).run p =
      if setting.deadline.isExpired p.elapsed then (.error (.deadline p.elapsed), p)
      else
        let answer := (setting.replyTo driver query p).answer
        let q := setting.answered driver query p
        if answer.isTimeout || setting.deadline.isExpired q.elapsed then
          (.error (.deadline q.elapsed), q)
        else (.ok (answer.read query), q) := by
  rw [ask, run_check_bind, Run.run_bind_of_ok (Run.run_get p),
    Run.run_bind_of_ok (Run.run_noteCall _ p), Run.run_bind_of_ok (Run.run_modify _ _)]
  exact congrArg _ (setting.run_answer query _ (setting.answered driver query p))

end Setting

/-! ### Laws -/

/-- What relates the state after a run to the state before, given the failure by which the run was
given up, if it was. -/
structure Law where
  Holds : Progress → Option Failure → Progress → Prop
  refl : ∀ p, Holds p none p
  trans : ∀ {p q r f}, Holds p none q → Holds q f r → Holds p f r

/-- The failure in a result. -/
def Run.failure? : Except Failure α → Option Failure
  | .ok _ => none
  | .error f => some f

namespace Law

variable (law : Law)

/-- The law holds of a run from every state. -/
def Covers (r : Run α) : Prop := ∀ p, law.Holds p (Run.failure? (r.run p).1) (r.run p).2

variable {law}

theorem covers_pure (a : α) : law.Covers (pure a : Run α) := fun p => law.refl p

theorem covers_bind {r : Run α} {next : α → Run β} (h : law.Covers r)
    (hnext : ∀ a, law.Covers (next a)) : law.Covers (r >>= next) := by
  intro p
  have hr := h p
  rcases hrun : r.run p with ⟨f | a, q⟩
  · rw [Run.run_bind_of_error hrun]
    rwa [hrun] at hr
  · rw [Run.run_bind_of_ok hrun]
    rw [hrun] at hr
    exact law.trans hr (hnext a q)

/-- The steps of an evaluation obey a law. -/
structure CoversSteps (law : Law) (setting : Setting) : Prop where
  check : law.Covers setting.check
  tell : ∀ kind, law.Covers (Run.tell setting.sink (.query kind))
  ask : ∀ driver, setting.driver = some driver → ∀ query, law.Covers (setting.ask driver query)
  claim : law.Covers (Run.claim .subqueryFailed setting.subject)
  dumpState : ∀ driver, setting.driver = some driver → law.Covers (Run.dumpState driver)
  log : ∀ record, law.Covers (Run.log record)
  pause : law.Covers Run.pause

variable {setting : Setting}

theorem CoversSteps.warnOfSubquery (h : law.CoversSteps setting) (query : String) (e : DriverError)
    {state : Run String} (hstate : law.Covers state) :
    law.Covers (setting.warnOfSubquery query e state) := by
  refine covers_bind h.claim fun due => ?_
  cases due with
  | false => exact covers_pure ()
  | true => exact covers_bind hstate fun text => h.log _

theorem CoversSteps.subquery (h : law.CoversSteps setting) (kind : QueryKind) (query : String) :
    law.Covers (setting.subquery kind query) := by
  unfold Setting.subquery
  cases hd : setting.driver with
  | none =>
    exact covers_bind (h.warnOfSubquery query _ (covers_pure "")) fun _ => covers_pure none
  | some driver =>
    refine covers_bind h.check fun _ => covers_bind (h.tell kind) fun _ =>
      covers_bind (h.ask driver hd query) fun result => ?_
    cases result with
    | ok rows => exact covers_pure (some rows)
    | error e =>
      have hstate : law.Covers (do return (← Run.dumpState driver).getD "" : Run String) :=
        covers_bind (h.dumpState driver hd) fun state => covers_pure (state.getD "")
      exact covers_bind (h.warnOfSubquery query e hstate) fun _ => covers_pure none

end Law

end BranchDistance
