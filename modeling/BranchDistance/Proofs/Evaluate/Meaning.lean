import BranchDistance.Proofs.Evaluate.Congruence

/-!
# What a condition means

With a driver that always answers a query in the same way, a condition has an outcome of its own,
whatever has been done before: its `meaning`.  It is computed without any state.

* `IsSteady` says that the driver is stateless and never times out, and that the sink never panics.
* In a steady setting a condition is evaluated to its meaning, unless the deadline passes
  (`settles_outcome`, `run_outcome`).
-/

namespace BranchDistance

variable {α β : Type}

/-! ### Steady settings -/

/-- The driver that answers every query in its own way and at once. -/
def Driver.ofAnswers (answer : String → Answer) : Driver where
  execute _ query _ := ⟨answer query, 0⟩
  dumpState _ := some ""

namespace Setting

/-- The driver is stateless and never gives a query up, and the sink never panics. -/
structure IsSteady (setting : Setting) : Prop where
  quiet : ∀ event, setting.sink.panic? event = none
  stateless : ∀ driver, setting.driver = some driver → ∀ query p,
    (setting.replyTo driver query p).answer = (setting.replyTo driver query {}).answer
  patient : ∀ driver, setting.driver = some driver → ∀ query,
    (setting.replyTo driver query {}).answer.isTimeout = false

/-- A setting with a driver that answers at once, and in the same way always, is steady. -/
theorem isSteady_ofAnswers {config : Config} {answer : String → Answer}
    (h : ∀ query, (answer query).isTimeout = false) :
    ({ config, driver := some (.ofAnswers answer) } : Setting).IsSteady where
  quiet _ := rfl
  stateless driver hd query p := by
    cases hd
    rfl
  patient driver hd query := by
    cases hd
    exact h query

/-- The rows of a subquery, as its driver first answers it; absent if it fails or without a
driver. -/
def rows? (setting : Setting) (query : String) : Option (List Row) :=
  match setting.driver with
  | none => none
  | some driver => ((setting.replyTo driver query {}).answer.read query).toOption

variable (setting : Setting) (scope : Scope)

/-- That an operand is among the first values of the rows of a subquery. -/
def meaningOfIn (operand : Operand) (query : String) : Outcome :=
  .ofOperand (fun v =>
    if v.isNull then .missing
    else match setting.rows? query with
      | some rows => Leaf.inRows setting.config v rows
      | none => .invalid) (operand.value? scope)

/-- That a subquery has rows. -/
def meaningOfExists (query : String) : Outcome :=
  match setting.rows? query with
  | some rows => .ofBool setting.config.penalty (!rows.isEmpty)
  | none => .invalid

mutual

/-- The outcome of a condition if every query is answered as at first. -/
def meaning : Condition → Outcome
  | .compare relation left right => Leaf.compare setting.config scope relation left right
  | .and children => (meanings children).foldl Outcome.and .satisfied
  | .or children => .any (meanings children)
  | .not inner => (meaning inner).negate setting.config.penalty
  | .isNull operand negated => Leaf.isNull setting.config scope operand negated
  | .between operand low high => Leaf.between setting.config scope operand low high
  | .inList operand candidates => Leaf.inList setting.config scope operand candidates
  | .inQuery operand query => setting.meaningOfIn scope operand query
  | .like operand pattern negated foldCase =>
    Leaf.like setting.config scope operand pattern negated foldCase
  | .exists query => setting.meaningOfExists query

/-- The meanings of several conditions. -/
def meanings : List Condition → List Outcome
  | [] => []
  | child :: rest => meaning child :: meanings rest

end

theorem meanings_eq_map : (cs : List Condition) →
    setting.meanings scope cs = cs.map (setting.meaning scope)
  | [] => rfl
  | child :: rest => by rw [meanings, meanings_eq_map rest, List.map_cons]

/-- A run ends with one of some values, unless the deadline passes. -/
def Settles (r : Run α) (Q : α → Prop) : Prop :=
  ∀ p, match (r.run p).1 with
    | .ok a => Q a
    | .error f => ∃ t, f = .deadline t ∧ setting.deadline.isExpired t = true

variable {setting scope}

theorem settles_pure {a : α} {Q : α → Prop} (h : Q a) : setting.Settles (pure a : Run α) Q :=
  fun _ => h

theorem settles_bind {r : Run α} {next : α → Run β} {Q : α → Prop} {R : β → Prop}
    (h : setting.Settles r Q) (hnext : ∀ a, Q a → setting.Settles (next a) R) :
    setting.Settles (r >>= next) R := by
  intro p
  have hr := h p
  rcases hrun : r.run p with ⟨f | a, q⟩
  · rw [Run.run_bind_of_error hrun]
    rw [hrun] at hr
    exact hr
  · rw [Run.run_bind_of_ok hrun]
    rw [hrun] at hr
    exact hnext a hr q

theorem settles_check : setting.Settles setting.check fun _ => True := by
  intro p
  rw [run_check]
  by_cases h : setting.deadline.isExpired p.elapsed = true
  · rw [if_pos h]
    exact ⟨p.elapsed, rfl, h⟩
  · rw [if_neg h]
    trivial

theorem settles_tell (h : setting.IsSteady) (event : Event) :
    setting.Settles (Run.tell setting.sink event) fun _ => True := by
  intro p
  rw [Run.run_tell, h.quiet event]
  trivial

theorem settles_ask (h : setting.IsSteady) {driver : Driver} (hd : setting.driver = some driver)
    (query : String) :
    setting.Settles (setting.ask driver query)
      (· = (setting.replyTo driver query {}).answer.read query) := by
  intro p
  rw [run_ask]
  by_cases hp : setting.deadline.isExpired p.elapsed = true
  · rw [if_pos hp]
    exact ⟨p.elapsed, rfl, hp⟩
  · rw [if_neg hp]
    simp only [h.stateless driver hd query p, h.patient driver hd query, Bool.false_or]
    by_cases hq : setting.deadline.isExpired (setting.answered driver query p).elapsed = true
    · rw [if_pos hq]
      exact ⟨_, rfl, hq⟩
    · rw [if_neg hq]

theorem settles_warnOfSubquery (query : String) (e : DriverError) {state : Run String}
    (hstate : setting.Settles state fun _ => True) :
    setting.Settles (setting.warnOfSubquery query e state) fun _ => True := by
  have hclaim : setting.Settles (Run.claim .subqueryFailed setting.subject) fun _ => True := by
    intro p
    obtain ⟨due, given, hrun⟩ := Run.run_claim .subqueryFailed setting.subject p
    rw [hrun]
    trivial
  refine settles_bind hclaim fun due _ => ?_
  cases due with
  | false => exact settles_pure trivial
  | true => exact settles_bind hstate fun text _ => fun _ => trivial

/-- A subquery gives the rows of its first answer. -/
theorem settles_subquery (h : setting.IsSteady) (kind : QueryKind) (query : String) :
    setting.Settles (setting.subquery kind query) (· = setting.rows? query) := by
  unfold subquery rows?
  cases hd : setting.driver with
  | none =>
    exact settles_bind (settles_warnOfSubquery query _ (settles_pure trivial)) fun _ _ =>
      settles_pure rfl
  | some driver =>
    refine settles_bind settles_check fun _ _ => settles_bind (settles_tell h _) fun _ _ =>
      settles_bind (settles_ask h hd query) fun result hresult => ?_
    cases result with
    | ok rows =>
      refine settles_pure ?_
      simp only [← hresult]
      rfl
    | error e =>
      have hstate : setting.Settles (do return (← Run.dumpState driver).getD "" : Run String)
          fun _ => True := fun _ => trivial
      refine settles_bind (settles_warnOfSubquery query e hstate) fun _ _ => settles_pure ?_
      simp only [← hresult]
      rfl

theorem settles_inQuery (h : setting.IsSteady) (operand : Operand) (query : String) :
    setting.Settles (setting.inQuery scope operand query)
      (· = setting.meaningOfIn scope operand query) := by
  unfold inQuery meaningOfIn
  cases operand.value? scope with
  | error cause => exact settles_pure rfl
  | ok v =>
    dsimp only [Outcome.ofOperand]
    split
    · exact settles_pure rfl
    · refine settles_bind (settles_subquery h _ query) fun rows hrows => ?_
      rw [← hrows]
      cases rows <;> exact settles_pure rfl

theorem settles_existsRow (h : setting.IsSteady) (query : String) :
    setting.Settles (setting.existsRow query) (· = setting.meaningOfExists query) := by
  unfold existsRow meaningOfExists
  refine settles_bind (settles_subquery h _ query) fun rows hrows => ?_
  rw [← hrows]
  cases rows <;> exact settles_pure rfl

mutual

/-- In a steady setting a condition is evaluated to its meaning. -/
theorem settles_outcome (h : setting.IsSteady) :
    (c : Condition) → setting.Settles (setting.outcome scope c) (· = setting.meaning scope c)
  | .compare .. | .isNull .. | .between .. | .inList .. | .like .. => by
    rw [outcome, meaning]
    exact settles_bind settles_check fun _ _ => settles_pure rfl
  | .and children => by
    rw [outcome, meaning]
    exact settles_bind settles_check fun _ _ => settles_conjunction h children _
  | .or children => by
    rw [outcome, meaning]
    exact settles_bind settles_check fun _ _ => settles_disjunction h children none
  | .not inner => by
    rw [outcome, meaning]
    refine settles_bind settles_check fun _ _ => settles_bind (settles_outcome h inner) ?_
    rintro _ rfl
    exact settles_pure rfl
  | .inQuery operand query => by
    rw [outcome, meaning]
    exact settles_bind settles_check fun _ _ => settles_inQuery h operand query
  | .exists query => by
    rw [outcome, meaning]
    exact settles_bind settles_check fun _ _ => settles_existsRow h query

theorem settles_conjunction (h : setting.IsSteady) :
    (cs : List Condition) → (total : Outcome) →
      setting.Settles (setting.conjunction scope total cs)
        (· = (setting.meanings scope cs).foldl Outcome.and total)
  | [], total => by
    rw [conjunction]
    exact settles_pure rfl
  | child :: rest, total => by
    rw [conjunction]
    refine settles_bind (settles_outcome h child) ?_
    rintro _ rfl
    exact settles_conjunction h rest _

theorem settles_disjunction (h : setting.IsSteady) :
    (cs : List Condition) → (best : Option Outcome) →
      setting.Settles (setting.disjunction scope best cs)
        (· = match best with
          | none => .any (setting.meanings scope cs)
          | some b => b.orAll (setting.meanings scope cs))
  | [], best => by
    rw [disjunction]
    cases best <;> exact settles_pure rfl
  | child :: rest, best => by
    rw [disjunction]
    refine settles_bind (settles_outcome h child) ?_
    rintro _ rfl
    -- the first satisfied part ends the run, and the fold of meanings at the same place
    by_cases hs : (setting.meaning scope child).isSatisfied = true
    · rw [if_pos hs]
      cases best <;> exact settles_pure (if_pos hs).symm
    · rw [if_neg hs]
      cases best with
      | none =>
        have := settles_disjunction h rest (some (setting.meaning scope child))
        simpa only [meanings, Outcome.any, if_neg hs] using this
      | some b =>
        have := settles_disjunction h rest (some (b.or (setting.meaning scope child)))
        simpa only [meanings, Outcome.orAll, if_neg hs] using this

end

end Setting

/-! ### Conditions without subqueries -/

namespace Condition

mutual

/-- The subqueries of a condition, from left to right. -/
def queries : Condition → List String
  | and children => queriesOfAll children
  | or children => queriesOfAll children
  | not inner => inner.queries
  | inQuery _ query => [query]
  | .exists query => [query]
  | _ => []

/-- The subqueries of several conditions, from left to right. -/
def queriesOfAll : List Condition → List String
  | [] => []
  | child :: rest => child.queries ++ queriesOfAll rest

end

end Condition

namespace Setting

variable {setting : Setting} {scope : Scope} {p : Progress}

mutual

/-- Without subqueries a condition is evaluated to its meaning in every setting, and nothing else
happens. -/
theorem run_outcome_of_queries (hp : setting.deadline.isExpired p.elapsed = false) :
    (c : Condition) → c.queries = [] →
      (setting.outcome scope c).run p = (.ok (setting.meaning scope c), p)
  | .compare .., _ | .isNull .., _ | .between .., _ | .inList .., _ | .like .., _ => by
    rw [outcome, run_check_bind, hp, meaning]
    rfl
  | .and children, h => by
    rw [outcome, run_check_bind, hp, meaning]
    exact run_conjunction_of_queries hp children h _
  | .or children, h => by
    rw [outcome, run_check_bind, hp, meaning]
    exact run_disjunction_of_queries hp children h none
  | .not inner, h => by
    rw [outcome, run_check_bind, hp, meaning]
    exact Run.run_bind_of_ok (run_outcome_of_queries hp inner h)

theorem run_conjunction_of_queries (hp : setting.deadline.isExpired p.elapsed = false) :
    (cs : List Condition) → Condition.queriesOfAll cs = [] → (total : Outcome) →
      (setting.conjunction scope total cs).run p =
        (.ok ((setting.meanings scope cs).foldl Outcome.and total), p)
  | [], _, total => by
    rw [conjunction]
    rfl
  | child :: rest, h, total => by
    obtain ⟨hc, hr⟩ := List.append_eq_nil_iff.1 h
    rw [conjunction, Run.run_bind_of_ok (run_outcome_of_queries hp child hc)]
    exact run_conjunction_of_queries hp rest hr _

theorem run_disjunction_of_queries (hp : setting.deadline.isExpired p.elapsed = false) :
    (cs : List Condition) → Condition.queriesOfAll cs = [] → (best : Option Outcome) →
      (setting.disjunction scope best cs).run p =
        (.ok (match best with
          | none => .any (setting.meanings scope cs)
          | some b => b.orAll (setting.meanings scope cs)), p)
  | [], _, best => by
    rw [disjunction]
    cases best <;> rfl
  | child :: rest, h, best => by
    obtain ⟨hc, hr⟩ := List.append_eq_nil_iff.1 h
    rw [disjunction, Run.run_bind_of_ok (run_outcome_of_queries hp child hc)]
    by_cases hs : (setting.meaning scope child).isSatisfied = true
    · rw [if_pos hs]
      cases best <;> simp only [meanings, Outcome.any, Outcome.orAll, if_pos hs, Run.run_pure]
    · rw [if_neg hs, run_disjunction_of_queries hp rest hr]
      cases best <;> simp only [meanings, Outcome.any, Outcome.orAll, if_neg hs]

end

end Setting

end BranchDistance
