import BranchDistance.Proofs.Evaluate.Congruence

/-!
# Panics of a driver

A driver that panics on a query is not told apart from one that fails it: `Driver.contained` answers
by an error wherever the driver panics, and every evaluation with it is the same
(`outcome_contained`).  In particular a panic in the subquery of a leaf makes this leaf invalid and
goes no further, unless the deadline has passed when the driver gives up (`run_outcome_of_panic`).
-/

namespace BranchDistance

/-- The driver that answers by an error where another panics. -/
def Driver.contained (driver : Driver) : Driver where
  execute history query budget :=
    match (driver.execute history query budget).answer with
    | .panic =>
      ⟨.error (.execution query "driver panicked"), (driver.execute history query budget).latency⟩
    | _ => driver.execute history query budget
  dumpState := driver.dumpState

namespace Setting

variable (setting : Setting)

/-- The setting with the contained driver in the place of its own. -/
def contained : Setting := { setting with driver := setting.driver.map Driver.contained }

/-- A panic is answered like a failed query, and takes the same time. -/
theorem replyTo_contained (driver : Driver) (query : String) (p : Progress) :
    let reply := setting.replyTo driver query p
    let reply' := setting.replyTo driver.contained query p
    reply'.answer.read query = reply.answer.read query ∧
      reply'.answer.isTimeout = reply.answer.isTimeout ∧ reply'.latency = reply.latency := by
  simp only [replyTo, Driver.contained]
  rcases driver.execute p.trace.calls query (setting.deadline.remaining? p.elapsed) with
    ⟨_ | _ | _, latency⟩ <;> exact ⟨rfl, rfl, rfl⟩

theorem ask_contained (driver : Driver) (query : String) :
    setting.ask driver.contained query = setting.ask driver query := by
  refine Run.ext fun p => ?_
  obtain ⟨hread, htimeout, hlatency⟩ := setting.replyTo_contained driver query p
  have hanswered : setting.answered driver.contained query p = setting.answered driver query p := by
    rw [answered, answered, hlatency]
  rw [run_ask, run_ask, hanswered]
  simp only [hread, htimeout]

theorem subquery_contained (kind : QueryKind) (query : String) :
    setting.contained.subquery kind query = setting.subquery kind query := by
  unfold subquery
  cases hd : setting.driver with
  | none => rw [show setting.contained.driver = none by rw [contained, hd]; rfl]; rfl
  | some driver =>
    rw [show setting.contained.driver = some driver.contained by rw [contained, hd]; rfl]
    dsimp only
    rw [show setting.contained.ask driver.contained query = setting.ask driver query from
      setting.ask_contained driver query]
    rfl

/-- Two settings have the same constants and do the same with the deadline and with subqueries. -/
structure Agrees (setting setting' : Setting) : Prop where
  config : setting.config = setting'.config
  check : setting.check = setting'.check
  subquery : ∀ kind query, setting.subquery kind query = setting'.subquery kind query

theorem agrees_contained : setting.contained.Agrees setting :=
  ⟨rfl, rfl, setting.subquery_contained⟩

variable {setting} {setting' : Setting} {scope : Scope}

theorem Agrees.relates (h : setting.Agrees setting') {qs : List (QueryKind × String)} :
    Congruence.eq.Relates setting setting' qs :=
  ⟨h.config ▸ .refl _, h.check, fun kind query _ => h.subquery kind query, rfl⟩

/-- Settings that agree evaluate every condition in the same way. -/
theorem Agrees.outcome (h : setting.Agrees setting') (c : Condition) :
    setting.outcome scope c = setting'.outcome scope c :=
  Congruence.Relates.outcome c h.relates

/-- Every evaluation is the same with the contained driver. -/
theorem outcome_contained (c : Condition) :
    setting.contained.outcome scope c = setting.outcome scope c :=
  setting.agrees_contained.outcome c

end Setting

/-! ### The leaf of a panic -/

/-- The subquery that a leaf asks over a row, and what for. -/
def Condition.subquery? (scope : Scope) : Condition → Option (QueryKind × String)
  | .exists query => some (.exists, query)
  | .inQuery operand query =>
    match operand.value? scope with
    | .ok v => if v.isNull then none else some (.subselect, query)
    | .error _ => none
  | _ => none

namespace Setting

variable {setting : Setting} {scope : Scope}

theorem run_warnOfSubquery (query : String) (e : DriverError) {state : Run String}
    (hstate : ∀ p, ∃ text q, state.run p = (.ok text, q)) (p : Progress) :
    ∃ q, (setting.warnOfSubquery query e state).run p = (.ok (), q) := by
  obtain ⟨due, given, hclaim⟩ := Run.run_claim .subqueryFailed setting.subject p
  unfold warnOfSubquery
  rw [Run.run_bind_of_ok hclaim]
  cases due with
  | false => exact ⟨_, rfl⟩
  | true =>
    obtain ⟨text, q, hrun⟩ := hstate { p with given }
    rw [if_pos rfl, Run.run_bind_of_ok hrun]
    exact ⟨_, rfl⟩

/-- A query on which the driver panics has no rows, or it comes too late. -/
theorem run_subquery_of_panic {driver : Driver} (hd : setting.driver = some driver)
    {kind : QueryKind} {query : String} {p : Progress}
    (hp : setting.deadline.isExpired p.elapsed = false)
    (hquiet : setting.sink.panic? (.query kind) = none)
    (hpanic : (setting.replyTo driver query (Run.told p (.query kind))).answer = .panic) :
    let late := (setting.answered driver query (Run.told p (.query kind))).elapsed
    ((setting.subquery kind query).run p).1 =
      if setting.deadline.isExpired late then .error (.deadline late) else .ok none := by
  intro late
  have hp' : setting.deadline.isExpired (Run.told p (.query kind)).elapsed = false := hp
  have htell : (Run.tell setting.sink (.query kind)).run p =
      (.ok (), Run.told p (.query kind)) := by
    rw [Run.run_tell, hquiet]
  have hask := setting.run_ask driver query (Run.told p (.query kind))
  simp only [hp', hpanic, Answer.isTimeout, Bool.false_or, Bool.false_eq_true, if_false] at hask
  unfold subquery
  rw [hd]
  dsimp only
  rw [run_check_bind, hp, if_neg (by decide), Run.run_bind_of_ok htell]
  by_cases hlate : setting.deadline.isExpired late = true
  · -- the deadline is looked at before the panic is counted as an error
    rw [if_pos hlate] at hask ⊢
    rw [Run.run_bind_of_error hask]
  · rw [if_neg hlate] at hask ⊢
    have hstate (p : Progress) :
        ∃ text q, (do return (← Run.dumpState driver).getD "" : Run String).run p = (.ok text, q) :=
      ⟨_, _, rfl⟩
    obtain ⟨q, hwarn⟩ := run_warnOfSubquery query (.execution query "driver panicked") hstate
      (setting.answered driver query (Run.told p (.query kind)))
    rw [Run.run_bind_of_ok hask]
    exact congrArg Prod.fst (Run.run_bind_of_ok hwarn)

/-- A leaf that asks a subquery goes on with its rows, and is invalid without them. -/
theorem outcome_eq_subquery {c : Condition} {kind : QueryKind} {query : String}
    (hc : c.subquery? scope = some (kind, query)) :
    ∃ rest : Option (List Row) → Run Outcome, rest none = pure .invalid ∧
      setting.outcome scope c = (do
        setting.check
        let rows ← setting.subquery kind query
        rest rows) := by
  cases c with
  | «exists» query' =>
    cases hc
    exact ⟨_, rfl, by rw [outcome, existsRow]⟩
  | inQuery operand query' =>
    rw [Condition.subquery?] at hc
    rw [outcome, inQuery]
    rcases hval : operand.value? scope with cause | v <;> rw [hval] at hc
    · cases hc
    · dsimp only at hc ⊢
      by_cases hv : v.isNull = true
      · rw [if_pos hv] at hc
        cases hc
      · rw [if_neg hv] at hc ⊢
        cases hc
        exact ⟨_, rfl, rfl⟩
  | _ => cases hc

/-- A panic of the driver in the subquery of a leaf makes the leaf invalid, or it comes too late. -/
theorem run_outcome_of_panic {driver : Driver} (hd : setting.driver = some driver) {c : Condition}
    {kind : QueryKind} {query : String} (hc : c.subquery? scope = some (kind, query)) {p : Progress}
    (hp : setting.deadline.isExpired p.elapsed = false)
    (hquiet : setting.sink.panic? (.query kind) = none)
    (hpanic : (setting.replyTo driver query (Run.told p (.query kind))).answer = .panic) :
    let late := (setting.answered driver query (Run.told p (.query kind))).elapsed
    ((setting.outcome scope c).run p).1 =
      if setting.deadline.isExpired late then .error (.deadline late) else .ok .invalid := by
  intro late
  have hsub : ((setting.subquery kind query).run p).1 =
      if setting.deadline.isExpired late then .error (.deadline late) else .ok none :=
    run_subquery_of_panic hd hp hquiet hpanic
  obtain ⟨rest, hrest, hleaf⟩ := @outcome_eq_subquery setting _ _ _ _ hc
  rw [hleaf, run_check_bind, hp, if_neg (by decide), Run.run_bind]
  rcases hrun : (setting.subquery kind query).run p with ⟨result, q⟩
  rw [hrun] at hsub
  by_cases hlate : setting.deadline.isExpired late = true
  · rw [if_pos hlate] at hsub ⊢
    rw [show result = .error (.deadline late) from hsub]
  · rw [if_neg hlate] at hsub ⊢
    rw [show result = .ok none from hsub]
    dsimp only
    rw [hrest, Run.run_pure]

end Setting

end BranchDistance
