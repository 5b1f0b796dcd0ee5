import BranchDistance.Evaluate.Condition
import BranchDistance.Proofs.Evaluate.Run

/-!
# Relations between evaluations

An evaluation is built from looking at the deadline and asking subqueries.  A relation between runs
that is kept by doing nothing and by going on (`Congruence`) therefore holds between two evaluations
of one condition if it holds between these steps (`Congruence.Relates.outcome`).  With pauses it
also holds between the searches that evaluate a condition row by row.

A law is such a relation, between a run and any other (`Law.congruence`), and so is equality
(`Congruence.eq`).
-/

namespace BranchDistance

/-! ### Subqueries -/

namespace Condition

mutual

/-- The subqueries of a condition and what they are for, from left to right. -/
def subqueries : Condition → List (QueryKind × String)
  | and children => subqueriesOfAll children
  | or children => subqueriesOfAll children
  | not inner => inner.subqueries
  | inQuery _ query => [(.subselect, query)]
  | .exists query => [(.exists, query)]
  | _ => []

/-- The subqueries of several conditions, from left to right. -/
def subqueriesOfAll : List Condition → List (QueryKind × String)
  | [] => []
  | child :: rest => child.subqueries ++ subqueriesOfAll rest

end

mutual

/-- A subquery is no probe. -/
theorem kind_of_mem_subqueries {kind : QueryKind} {query : String} :
    (c : Condition) → (kind, query) ∈ c.subqueries → kind ≠ .probe
  | and children, h => kind_of_mem_subqueriesOfAll children h
  | or children, h => kind_of_mem_subqueriesOfAll children h
  | not inner, h => kind_of_mem_subqueries inner h
  | inQuery _ _, h => by
    obtain ⟨rfl, -⟩ := Prod.mk.inj (List.mem_singleton.1 h)
    decide
  | .exists _, h => by
    obtain ⟨rfl, -⟩ := Prod.mk.inj (List.mem_singleton.1 h)
    decide
  | compare .., h | isNull .., h | between .., h | inList .., h | like .., h => by cases h

theorem kind_of_mem_subqueriesOfAll {kind : QueryKind} {query : String} :
    (cs : List Condition) → (kind, query) ∈ subqueriesOfAll cs → kind ≠ .probe
  | [], h => by cases h
  | child :: rest, h => by
    rcases List.mem_append.1 h with h | h
    · exact kind_of_mem_subqueries child h
    · exact kind_of_mem_subqueriesOfAll rest h

end

end Condition

/-! ### Constants of the distance formulas -/

/-- Two configurations score every leaf in the same way. -/
structure Config.ScoresLike (config config' : Config) : Prop where
  penalty : config.penalty = config'.penalty
  epsilon : config.epsilon = config'.epsilon
  textMode : config.textMode = config'.textMode

theorem Config.ScoresLike.refl (config : Config) : config.ScoresLike config := ⟨rfl, rfl, rfl⟩

/-- The settings of a session have no part in the scores. -/
theorem Config.ScoresLike.eq {config config' : Config} (h : config.ScoresLike config') :
    config' = { config with
      timeoutMillis := config'.timeoutMillis
      keepTargets := config'.keepTargets } := by
  obtain ⟨hpenalty, hepsilon, htextMode⟩ := h
  rw [hpenalty, hepsilon, htextMode]

/-! ### Congruences -/

/-- A relation between runs that is kept by doing nothing and by one run after another. -/
structure Congruence where
  Holds : ∀ {α : Type}, Run α → Run α → Prop
  pure : ∀ {α : Type} (a : α), Holds (Pure.pure a) (Pure.pure a)
  bind : ∀ {α β : Type} {r r' : Run α} {next next' : α → Run β},
    Holds r r' → (∀ a, Holds (next a) (next' a)) → Holds (r >>= next) (r' >>= next')

namespace Congruence

/-- Equality of runs. -/
def eq : Congruence where
  Holds r r' := r = r'
  pure _ := rfl
  bind := by
    rintro _ _ r _ next next' rfl h
    rw [funext h]

variable (R : Congruence)

/-- A congruence holds between the steps of two settings, the subqueries being some of these. -/
structure Relates (setting setting' : Setting) (subqueries : List (QueryKind × String)) :
    Prop where
  scores : setting.config.ScoresLike setting'.config
  check : R.Holds setting.check setting'.check
  subquery : ∀ kind query, (kind, query) ∈ subqueries →
    R.Holds (setting.subquery kind query) (setting'.subquery kind query)
  pause : R.Holds Run.pause Run.pause

namespace Relates

variable {R} {setting setting' : Setting} {scope : Scope} {qs qs' : List (QueryKind × String)}

theorem mono (h : R.Relates setting setting' qs) (hsub : ∀ q ∈ qs', q ∈ qs) :
    R.Relates setting setting' qs' :=
  ⟨h.scores, h.check, fun kind query hq => h.subquery kind query (hsub _ hq), h.pause⟩

/-- A leaf without a subquery. -/
theorem leaf (h : R.Relates setting setting' qs) {o o' : Outcome} (ho : o = o') :
    R.Holds (do setting.check; return o) (do setting'.check; return o') := by
  subst ho
  exact R.bind h.check fun _ => R.pure o

theorem inQuery (h : R.Relates setting setting' qs) (operand : Operand) {query : String}
    (hq : (.subselect, query) ∈ qs) :
    R.Holds (setting.inQuery scope operand query) (setting'.inQuery scope operand query) := by
  unfold Setting.inQuery
  cases operand.value? scope with
  | error cause => exact R.pure _
  | ok v =>
    dsimp only
    split
    · exact R.pure _
    · refine R.bind (h.subquery _ _ hq) fun rows => ?_
      cases rows with
      | none => exact R.pure _
      | some rows =>
        rw [h.scores.eq]
        exact R.pure _

theorem existsRow (h : R.Relates setting setting' qs) {query : String}
    (hq : (.exists, query) ∈ qs) :
    R.Holds (setting.existsRow query) (setting'.existsRow query) := by
  refine R.bind (h.subquery _ _ hq) fun rows => ?_
  cases rows with
  | none => exact R.pure _
  | some rows =>
    rw [h.scores.penalty]
    exact R.pure _

mutual

/-- A congruence of the steps holds between the evaluations. -/
theorem outcome : (c : Condition) → R.Relates setting setting' c.subqueries →
    R.Holds (setting.outcome scope c) (setting'.outcome scope c)
  | .compare .., h | .isNull .., h | .between .., h | .inList .., h | .like .., h => by
    rw [Setting.outcome, Setting.outcome]
    refine h.leaf ?_
    rw [h.scores.eq]
    rfl
  | .and children, h => by
    rw [Setting.outcome, Setting.outcome]
    exact R.bind h.check fun _ => conjunction children h .satisfied
  | .or children, h => by
    rw [Setting.outcome, Setting.outcome]
    exact R.bind h.check fun _ => disjunction children h none
  | .not inner, h => by
    rw [Setting.outcome, Setting.outcome, h.scores.penalty]
    exact R.bind h.check fun _ => R.bind (outcome inner h) fun _ => R.pure _
  | .inQuery operand _, h => by
    rw [Setting.outcome, Setting.outcome]
    exact R.bind h.check fun _ => h.inQuery operand List.mem_cons_self
  | .exists _, h => by
    rw [Setting.outcome, Setting.outcome]
    exact R.bind h.check fun _ => h.existsRow List.mem_cons_self

theorem conjunction : (cs : List Condition) →
    R.Relates setting setting' (Condition.subqueriesOfAll cs) → (total : Outcome) →
    R.Holds (setting.conjunction scope total cs) (setting'.conjunction scope total cs)
  | [], _, total => by
    rw [Setting.conjunction, Setting.conjunction]
    exact R.pure total
  | child :: rest, h, total => by
    rw [Setting.conjunction, Setting.conjunction]
    exact R.bind (outcome child (h.mono fun _ => List.mem_append_left _)) fun o =>
      conjunction rest (h.mono fun _ => List.mem_append_right _) _

theorem disjunction : (cs : List Condition) →
    R.Relates setting setting' (Condition.subqueriesOfAll cs) → (best : Option Outcome) →
    R.Holds (setting.disjunction scope best cs) (setting'.disjunction scope best cs)
  | [], _, best => by
    rw [Setting.disjunction, Setting.disjunction]
    exact R.pure _
  | child :: rest, h, best => by
    rw [Setting.disjunction, Setting.disjunction]
    refine R.bind (outcome child (h.mono fun _ => List.mem_append_left _)) fun o => ?_
    split
    · exact R.pure o
    · exact disjunction rest (h.mono fun _ => List.mem_append_right _) _

end

end Relates

end Congruence

namespace Law

/-- A law holds of a run, whatever the other one is. -/
def congruence (law : Law) : Congruence where
  Holds r _ := law.Covers r
  pure := covers_pure
  bind := covers_bind

variable {law : Law} {setting : Setting}

theorem CoversSteps.relates (h : law.CoversSteps setting) (qs : List (QueryKind × String)) :
    law.congruence.Relates setting setting qs :=
  ⟨.refl _, h.check, fun kind query _ => h.subquery kind query, h.pause⟩

/-- A law of the steps is a law of the evaluation. -/
theorem CoversSteps.outcome (h : law.CoversSteps setting) {scope : Scope} (c : Condition) :
    law.Covers (setting.outcome scope c) :=
  Congruence.Relates.outcome c (h.relates c.subqueries)

end Law

end BranchDistance
