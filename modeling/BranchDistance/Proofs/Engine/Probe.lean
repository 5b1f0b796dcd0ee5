import BranchDistance.Proofs.Engine.Events

/-!
# The probe of a calculation

Without given rows a calculation asks the driver for them before all else.  Either it fails before,
and asks nothing, or the reply to this first call decides how it goes on (`attempted_none`).

* A panic of the driver in the probe is a failure of the driver, unless it comes too late
  (`kind_of_probe_panic`).
* Every failure of the driver is one of the probe (`probe_of_kind`).
-/

namespace BranchDistance

variable {α β : Type}

/-! ### Laws of calls -/

namespace Law

/-- Nothing is asked, no time passes, and no failure is one of the driver. -/
def still : Law where
  Holds p f q :=
    q.elapsed = p.elapsed ∧ q.trace.calls = p.trace.calls ∧ f.map Failure.kind ≠ some .driver
  refl _ := ⟨rfl, rfl, by simp⟩
  trans h h' := ⟨h'.1.trans h.1, h'.2.1.trans h.2.1, h'.2.2⟩

/-- Calls are only added. -/
def growing : Law where
  Holds p _ q := ∃ new, q.trace.calls = p.trace.calls ++ new
  refl p := ⟨[], (List.append_nil _).symm⟩
  trans := by
    rintro p q r f ⟨new, hq⟩ ⟨new', hr⟩
    exact ⟨new ++ new', by rw [hr, hq, List.append_assoc]⟩

theorem still_check (setting : Setting) : still.Covers setting.check := by
  intro p
  rw [Setting.run_check]
  split <;> exact ⟨rfl, rfl, by simp [Run.failure?, Failure.deadline]⟩

theorem still_tell (sink : Sink) (event : Event) : still.Covers (Run.tell sink event) := by
  intro p
  rw [Run.run_tell]
  split <;> exact ⟨rfl, rfl, by simp [Run.failure?, Failure.panicked]⟩

theorem growing_of_still {p q : Progress} {f : Option Failure} (h : still.Holds p f q) :
    growing.Holds p f q :=
  ⟨[], by rw [h.2.1, List.append_nil]⟩

theorem growing_coversSteps (setting : Setting) : growing.CoversSteps setting where
  check p := growing_of_still (still_check setting p)
  tell kind p := growing_of_still (still_tell setting.sink (.query kind) p)
  ask driver _ query p := by
    rw [Setting.run_ask]
    split
    · exact growing.refl p
    · dsimp only
      split <;> exact ⟨[_], rfl⟩
  claim p := by
    obtain ⟨due, given, h⟩ := Run.run_claim .subqueryFailed setting.subject p
    rw [h]
    exact growing.refl p
  dumpState driver _ p := ⟨[.dumpState], rfl⟩
  log record p := growing.refl p
  pause p := growing.refl p

/-- A run that obeys a law either is given up, or goes on in a state that the law allows. -/
theorem run_bind_cases {law : Law} {r : Run α} (h : law.Covers r) (next : α → Run β)
    (p : Progress) :
    (∃ f q, (r >>= next).run p = (.error f, q) ∧ law.Holds p (some f) q) ∨
      ∃ a q, (r >>= next).run p = (next a).run q ∧ law.Holds p none q := by
  have hr := h p
  rcases hrun : r.run p with ⟨f | a, q⟩ <;> rw [hrun] at hr
  · exact .inl ⟨f, q, Run.run_bind_of_error hrun, hr⟩
  · exact .inr ⟨a, q, Run.run_bind_of_ok hrun, hr⟩

end Law

/-! ### The probe -/

namespace Engine

/-- What a calculation does with the answer to its probe. -/
def afterProbe (setting : Setting) (target : Target) :
    Except DriverError (List Row) → Run Verdict
  | .ok rows => overRows setting target rows
  | .error e => throw (.ofDriver e)

section Probe

variable {setting : Setting} {driver : Driver} {text : String}

theorem judge_none (target : Target) :
    judge setting driver text none target =
      match target.probeQuery with
      | none => throw (.noProbe text)
      | some query => (do
        setting.check
        Run.tell setting.sink (.query .probe)
        setting.ask driver query >>= afterProbe setting target) := by
  rw [judge_eq, candidates]
  cases target.probeQuery with
  | none => rfl
  | some query =>
    simp only [bind_assoc]
    refine congrArg _ (funext fun _ => congrArg _ (funext fun _ => congrArg _ (funext fun r => ?_)))
    cases r <;> rfl

/-- Without given rows a calculation asks its probe before all else, or it fails without asking
anything. -/
theorem run_attempt_none (target : Except TargetError Target) (event : Option Event)
    (p : Progress) :
    (∃ f q, (attempt setting driver text none target event).run p = (.error f, q) ∧
      Law.still.Holds p (some f) q) ∨
    ∃ t query q, Law.still.Holds p none q ∧
      (attempt setting driver text none target event).run p =
        (setting.ask driver query >>= afterProbe setting t).run q := by
  have hlookup : Law.still.Covers (tellLookup setting event) := by
    cases event with
    | none => exact Law.covers_pure ()
    | some e => exact Law.still_tell setting.sink e
  rw [attempt_eq]
  -- the lookup of the target
  obtain hgone | ⟨_, q, hrun, hq⟩ := Law.run_bind_cases hlookup _ p
  · exact .inl hgone
  rw [hrun]
  cases target with
  | error e =>
    refine .inl ⟨_, q, rfl, hq.1, hq.2.1, ?_⟩
    rw [Option.map_some, Failure.ofTarget]
    split <;> simp
  | ok t =>
    rw [judgeFound, judge_none]
    cases t.probeQuery with
    | none => exact .inl ⟨_, q, rfl, hq.1, hq.2.1, by simp [Failure.noProbe]⟩
    | some query =>
      dsimp only
      -- the deadline, and then the event of the probe
      obtain ⟨f, r, hrun, hr⟩ | ⟨_, r, hrun, hr⟩ :=
        Law.run_bind_cases (Law.still_check setting) _ q
      · exact .inl ⟨f, r, hrun, Law.still.trans hq hr⟩
      rw [hrun]
      obtain ⟨f, s, hrun, hs⟩ | ⟨_, s, hrun, hs⟩ :=
        Law.run_bind_cases (Law.still_tell setting.sink (.query .probe)) _ r
      · exact .inl ⟨f, s, hrun, Law.still.trans hq (Law.still.trans hr hs)⟩
      exact .inr ⟨t, query, s, Law.still.trans hq (Law.still.trans hr hs), hrun⟩

/-- How a calculation goes on after the reply to its probe. -/
def Probed (deadline : Deadline) (query : String) (reply : Reply)
    (result : Except Failure Verdict) : Prop :=
  if reply.answer.isTimeout || deadline.isExpired reply.latency then
    result = .error (.deadline reply.latency)
  else
    match reply.answer.read query with
    | .error e => result = .error (.ofDriver e)
    | .ok _ => (Run.failure? result).map Failure.kind ≠ some .driver

theorem run_ask_afterProbe (target : Target) (query : String) {q : Progress}
    (helapsed : q.elapsed = 0) (hcalls : q.trace.calls = []) :
    let budget := setting.deadline.remaining? 0
    let gone := (setting.ask driver query >>= afterProbe setting target).run q
    gone = (.error (.deadline 0), q) ∨
      ∃ later, gone.2.trace.calls = .execute query budget :: later ∧
        Probed setting.deadline query (driver.execute [] query budget) gone.1 := by
  intro budget gone
  have hask := setting.run_ask driver query q
  have hreply : setting.replyTo driver query q = driver.execute [] query budget := by
    rw [Setting.replyTo, helapsed, hcalls]
  have hanswered : (setting.answered driver query q).elapsed =
      (driver.execute [] query budget).latency := by
    rw [Setting.answered, hreply, helapsed, Nat.zero_add]
  have hasked : (setting.answered driver query q).trace.calls = [.execute query budget] := by
    change q.trace.calls ++ [.execute query (setting.deadline.remaining? q.elapsed)] = _
    rw [hcalls, helapsed]
    rfl
  rw [helapsed] at hask
  by_cases hexpired : setting.deadline.isExpired 0 = true
  · rw [if_pos hexpired] at hask
    exact .inl (Run.run_bind_of_error hask)
  · rw [if_neg hexpired] at hask
    simp only [hreply, hanswered] at hask
    refine .inr ?_
    unfold Probed
    by_cases hlate : ((driver.execute [] query budget).answer.isTimeout ||
        setting.deadline.isExpired (driver.execute [] query budget).latency) = true
    · rw [if_pos hlate] at hask ⊢
      have hgone : gone = _ := Run.run_bind_of_error hask
      rw [hgone]
      exact ⟨[], hasked, rfl⟩
    · -- the reply is in time: rows are evaluated, an error ends the calculation
      rw [if_neg hlate] at hask ⊢
      have hgone : gone = _ := Run.run_bind_of_ok hask
      rw [hgone]
      cases (driver.execute [] query budget).answer.read query with
      | error e => exact ⟨[], hasked, rfl⟩
      | ok rows =>
        obtain ⟨later, hlater⟩ := covers_overRows (Law.growing_coversSteps setting) target rows
          (setting.answered driver query q)
        refine ⟨later, hlater.trans (by rw [hasked]; rfl), ?_⟩
        exact covers_overRows (.of_silent Law.avoiding_of_silent fun kind => Law.avoiding_tell _ _)
          target rows _

end Probe

/-- Without given rows, either a calculation fails without asking anything, or its first call is
the probe and the reply decides how it goes on. -/
theorem attempted_none (engine : Engine) (driver : Driver) (text : String) :
    let deadline : Deadline := ⟨engine.config.timeout?⟩
    let attempted := engine.attempted driver text none
    (attempted.2.trace.calls = [] ∧
      (Run.failure? attempted.1).map Failure.kind ≠ some .driver) ∨
    ∃ query later,
      attempted.2.trace.calls = .execute query (deadline.remaining? 0) :: later ∧
        Probed deadline query (driver.execute [] query (deadline.remaining? 0)) attempted.1 := by
  intro deadline attempted
  obtain ⟨f, q, hrun, hq⟩ | ⟨t, query, q, hq, hrun⟩ :=
    @run_attempt_none (engine.setting driver (.ofText text)) driver text
      (engine.target? text).1 (engine.target? text).2.1
      { given := engine.given, pauses := engine.pauses }
  · have hattempted : attempted = (.error f, q) := hrun
    rw [hattempted]
    exact .inl ⟨hq.2.1, hq.2.2⟩
  · have hattempted : attempted = _ := hrun
    rw [hattempted]
    obtain hgone | ⟨later, hlater, hprobed⟩ :=
      @run_ask_afterProbe (engine.setting driver (.ofText text)) driver t query q hq.1 hq.2.1
    · rw [hgone]
      exact .inl ⟨hq.2.1, by simp [Run.failure?, Failure.deadline]⟩
    · exact .inr ⟨query, later, hlater, hprobed⟩

/-- A call that closing adds is not a query. -/
theorem firstCall_of_calculate {engine : Engine} {driver : Driver} {text : String}
    {rows : Option (List Row)} {query : String} {budget : Option Nat} {later : List Call}
    (h : (engine.calculate driver text rows).trace.calls = .execute query budget :: later) :
    ∃ later', (engine.attempted driver text rows).2.trace.calls =
      .execute query budget :: later' := by
  obtain ⟨-, -, ⟨dumps, hcalls, hdumps⟩, -⟩ := engine.calculate_closing driver text rows
  rw [hcalls] at h
  rcases hattempted : (engine.attempted driver text rows).2.trace.calls with - | ⟨call, later'⟩
  · -- all calls would be those of closing, and these only ask for the state
    rw [hattempted, List.nil_append] at h
    have hfirst := hdumps (.execute query budget) (by rw [h]; exact List.mem_cons_self)
    cases hfirst
  · rw [hattempted] at h
    cases h
    exact ⟨later', rfl⟩

/-- A panic in the probe decides how the calculation fails. -/
theorem kind_of_probe_panic {engine : Engine} {driver : Driver} {text : String} {query : String}
    {budget : Option Nat} {later : List Call}
    (hcalls : (engine.attempted driver text none).2.trace.calls = .execute query budget :: later)
    (hpanic : (driver.execute [] query budget).answer = .panic) :
    (Run.failure? (engine.attempted driver text none).1).map Failure.kind =
      some (if (Deadline.mk engine.config.timeout?).isExpired
        (driver.execute [] query budget).latency then .timeout else .driver) := by
  obtain ⟨hnone, -⟩ | ⟨query', later', hcalls', hprobed⟩ := engine.attempted_none driver text
  · rw [hnone] at hcalls
    cases hcalls
  · rw [hcalls'] at hcalls
    cases hcalls
    unfold Probed at hprobed
    simp only [hpanic, Answer.isTimeout, Bool.false_or, Answer.read] at hprobed
    split at hprobed
    · next hlate =>
      rw [hprobed, if_pos hlate]
      rfl
    · next hlate =>
      rw [hprobed, if_neg hlate]
      rfl

/-- A failure of the driver is one of the probe. -/
theorem probe_of_kind {engine : Engine} {driver : Driver} {text : String}
    {rows : Option (List Row)}
    (h : (Run.failure? (engine.attempted driver text rows).1).map Failure.kind = some .driver) :
    rows = none ∧ ∃ query budget later e,
      (engine.attempted driver text rows).2.trace.calls = .execute query budget :: later ∧
        (driver.execute [] query budget).answer.read query = .error e := by
  cases rows with
  | some rows =>
    exact absurd h (avoiding_attempt (engine.target? text).1 (engine.target? text).2.1 rows _)
  | none =>
    refine ⟨rfl, ?_⟩
    obtain ⟨-, hkind⟩ | ⟨query, later, hcalls, hprobed⟩ := engine.attempted_none driver text
    · exact absurd h hkind
    · refine ⟨query, (Deadline.mk engine.config.timeout?).remaining? 0, later, ?_⟩
      unfold Probed at hprobed
      split at hprobed
      · rw [hprobed] at h
        cases h
      · split at hprobed
        · next e he => exact ⟨e, hcalls, he⟩
        · exact absurd h hprobed

end Engine

end BranchDistance
