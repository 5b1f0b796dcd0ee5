import BranchDistance.Proofs.Engine.Course
import BranchDistance.Proofs.Engine.Session

/-!
# Sessions do not show

A calculation takes two things from the session before it: the targets that are kept and the
warnings that have been given.  Neither shows in its verdict.

* What is kept for a text is the target of the text (`Engine.target?_after`).
* Two runs that differ only in the state from which they start give the same value, if both end in
  time and the answers of the driver are a function of the query (`Alike`).

So two engines that are configured in the same way come to one verdict, whatever has been done with
each of them and whether they keep targets or not (`Engine.history_hidden`).
-/

namespace BranchDistance

variable {α β : Type}

/-- The answers of a driver are a function of the query. -/
def Driver.AnswersBy (driver : Driver) (answer : String → Answer) : Prop :=
  ∀ history query budget, (driver.execute history query budget).answer = answer query

/-! ### Runs from different states -/

/-- Time does not go back. -/
def Law.later : Law where
  Holds p _ q := p.elapsed ≤ q.elapsed
  refl _ := le_rfl
  trans h h' := h.trans h'

theorem Law.elapsed_le_bind {r : Run α} {next : α → Run β} (hnext : ∀ a, later.Covers (next a))
    (p : Progress) : (r.run p).2.elapsed ≤ ((r >>= next).run p).2.elapsed := by
  rcases hrun : r.run p with ⟨f | a, q⟩
  · rw [Run.run_bind_of_error hrun]
  · rw [Run.run_bind_of_ok hrun]
    exact hnext a q

/-- Whatever the states from which they start, two runs with deadlines of their own give the same
value, or are both given up, if both end in time. -/
structure Alike (deadline deadline' : Deadline) (r r' : Run α) : Prop where
  later : Law.later.Covers r
  later' : Law.later.Covers r'
  value : ∀ p p', deadline.isExpired (r.run p).2.elapsed = false →
    deadline'.isExpired (r'.run p').2.elapsed = false →
      (r.run p).1.toOption = (r'.run p').1.toOption

namespace Alike

variable {deadline deadline' : Deadline}

theorem pure (a : α) : Alike deadline deadline' (Pure.pure a) (Pure.pure a) :=
  ⟨Law.covers_pure a, Law.covers_pure a, fun _ _ _ _ => rfl⟩

theorem throw (f f' : Failure) :
    Alike deadline deadline' (throw f : Run α) (MonadExcept.throw f') :=
  ⟨fun _ => le_rfl, fun _ => le_rfl, fun _ _ _ _ => rfl⟩

theorem bind {r r' : Run α} {next next' : α → Run β} (h : Alike deadline deadline' r r')
    (hnext : ∀ a, Alike deadline deadline' (next a) (next' a)) :
    Alike deadline deadline' (r >>= next) (r' >>= next') where
  later := Law.covers_bind h.later fun a => (hnext a).later
  later' := Law.covers_bind h.later' fun a => (hnext a).later'
  value p p' hp hp' := by
    -- both runs are in time where the second halves start
    have hvalue := h.value p p'
      (Deadline.isExpired_of_le (Law.elapsed_le_bind (fun a => (hnext a).later) p) hp)
      (Deadline.isExpired_of_le (Law.elapsed_le_bind (fun a => (hnext a).later') p') hp')
    rcases hrun : r.run p with ⟨f | a, q⟩ <;> rcases hrun' : r'.run p' with ⟨f' | a', q'⟩ <;>
      rw [hrun, hrun'] at hvalue
    · rw [Run.run_bind_of_error hrun, Run.run_bind_of_error hrun']
      rfl
    · cases hvalue
    · cases hvalue
    · cases hvalue
      rw [Run.run_bind_of_ok hrun] at hp ⊢
      rw [Run.run_bind_of_ok hrun'] at hp' ⊢
      exact (hnext a).value q q' hp hp'

/-- Runs on the side. -/
theorem of_aside {r r' : Run Unit} (h : Law.aside.Covers r) (h' : Law.aside.Covers r') :
    Alike deadline deadline' r r' where
  later p := (h p).2.1.ge
  later' p := (h' p).2.1.ge
  value p p' _ _ := by
    have hvalue {r : Run Unit} (h : Law.aside.Covers r) (p : Progress) :
        (r.run p).1.toOption = some () := by
      have hnone := (h p).1
      cases hresult : (r.run p).1 with
      | ok a => rfl
      | error f => rw [hresult] at hnone; cases hnone
    rw [hvalue h, hvalue h']

/-- Being alike is a congruence. -/
def congruence (deadline deadline' : Deadline) : Congruence where
  Holds r r' := Alike deadline deadline' r r'
  pure := pure
  bind := bind

end Alike

namespace Setting

variable {setting setting' : Setting} {driver : Driver} {answer : String → Answer}

theorem later_check (setting : Setting) : Law.later.Covers setting.check := by
  intro p
  rw [run_check]
  split <;> exact le_rfl

theorem run_check_of_inTime {p : Progress}
    (h : setting.deadline.isExpired (setting.check.run p).2.elapsed = false) :
    setting.check.run p = (.ok (), p) := by
  by_cases hp : setting.deadline.isExpired p.elapsed = true
  · rw [run_check, if_pos hp] at h
    exact absurd hp (Bool.eq_false_iff.1 h)
  · rw [run_check, if_neg hp]

theorem alike_check :
    Alike setting.deadline setting'.deadline setting.check setting'.check where
  later := later_check setting
  later' := later_check setting'
  value p p' hp hp' := by rw [run_check_of_inTime hp, run_check_of_inTime hp']

theorem later_pause : Law.later.Covers Run.pause := fun _ => Nat.le_add_right _ _

theorem later_query (hquiet : setting.sink.IsQuiet) (kind : QueryKind) (driver : Driver)
    (query : String) : Law.later.Covers (setting.query kind driver query) := by
  intro p
  rw [run_query (hquiet _)]
  split
  · exact le_rfl
  · dsimp only
    split <;> exact Nat.le_add_right _ _

/-- A query that is asked and answered in time gives what the driver answers, if this is a function
of the query. -/
theorem value_query (hquiet : setting.sink.IsQuiet) (hanswer : driver.AnswersBy answer)
    (kind : QueryKind) (query : String) {p : Progress}
    (h : setting.deadline.isExpired ((setting.query kind driver query).run p).2.elapsed = false) :
    ((setting.query kind driver query).run p).1.toOption =
      if (answer query).isTimeout then none else some ((answer query).read query) := by
  have hreply : ((setting.inquiry query p).reply driver).answer = answer query := hanswer _ _ _
  rw [run_query (hquiet _)] at h ⊢
  by_cases hp : setting.deadline.isExpired p.elapsed = true
  · rw [if_pos hp] at h
    exact absurd hp (Bool.eq_false_iff.1 h)
  · rw [if_neg hp] at h ⊢
    have htime : setting.deadline.isExpired (setting.queried kind driver query p).elapsed =
        false := by
      dsimp only at h
      split at h <;> exact h
    simp only [comesLate, htime, hreply, Bool.or_false]
    split <;> rfl

theorem alike_query (hquiet : setting.sink.IsQuiet) (hquiet' : setting'.sink.IsQuiet)
    (hanswer : driver.AnswersBy answer) (kind : QueryKind) (query : String) :
    Alike setting.deadline setting'.deadline (setting.query kind driver query)
      (setting'.query kind driver query) where
  later := later_query hquiet kind driver query
  later' := later_query hquiet' kind driver query
  value _ _ hp hp' :=
    (value_query hquiet hanswer kind query hp).trans
      (value_query hquiet' hanswer kind query hp').symm

/-- Two settings with one driver evaluate alike. -/
theorem alike_relates (hquiet : setting.sink.IsQuiet) (hquiet' : setting'.sink.IsQuiet)
    (hd : setting.driver = some driver) (hd' : setting'.driver = some driver)
    (hanswer : driver.AnswersBy answer) (hscores : setting.config.ScoresLike setting'.config)
    (qs : List (QueryKind × String)) :
    (Alike.congruence setting.deadline setting'.deadline).Relates setting setting' qs where
  scores := hscores
  check := alike_check
  subquery kind query _ := by
    change Alike _ _ (setting.subquery kind query) (setting'.subquery kind query)
    rw [subquery_eq hd, subquery_eq hd']
    refine (alike_query hquiet hquiet' hanswer kind query).bind fun result => ?_
    cases result with
    | ok rows => exact .pure (some rows)
    | error e =>
      exact (Alike.of_aside (Law.aside_warnWithState setting driver query e)
        (Law.aside_warnWithState setting' driver query e)).bind fun _ => .pure none
  pause := ⟨later_pause, later_pause, fun _ _ _ _ => rfl⟩

end Setting

/-! ### Calculations after different sessions -/

namespace Engine

theorem verdictOf_eq (result : Except Failure Verdict) :
    verdictOf result = result.toOption.getD .failure := by
  cases result <;> rfl

section Calculate

variable {engine engine' : Engine} {driver : Driver} {answer : String → Answer} {text : String}
  {rows : Option (List Row)}

/-- Engines that agree on the target of a text judge it alike. -/
theorem alike_judgeFound {setting setting' : Setting} (hquiet : setting.sink.IsQuiet)
    (hquiet' : setting'.sink.IsQuiet) (hd : setting.driver = some driver)
    (hd' : setting'.driver = some driver) (hanswer : driver.AnswersBy answer)
    (hscores : setting.config.ScoresLike setting'.config) (target : Except TargetError Target) :
    Alike setting.deadline setting'.deadline (judgeFound setting driver text rows target)
      (judgeFound setting' driver text rows target) := by
  cases target with
  | error e => exact .throw _ _
  | ok target =>
    have hover (list : List Row) := relates_overRows target
      (Setting.alike_relates hquiet hquiet' hd hd' hanswer hscores target.subqueries) list
    change Alike _ _ (judge setting driver text rows target)
      (judge setting' driver text rows target)
    cases rows with
    | some list => exact hover list
    | none =>
      cases hprobe : target.probeQuery with
      | none =>
        rw [judge_none, judge_none, hprobe]
        exact .throw _ _
      | some query =>
        rw [judge_probe hprobe, judge_probe hprobe]
        refine (Setting.alike_query hquiet hquiet' hanswer .probe query).bind fun result => ?_
        cases result with
        | ok list => exact hover list
        | error e => exact .throw _ _

/-- The verdicts of two engines on one target. -/
theorem verdict_eq (hquiet : engine.IsQuiet) (hquiet' : engine'.IsQuiet)
    (hscores : engine.config.ScoresLike engine'.config) (hanswer : driver.AnswersBy answer)
    (htarget : (engine.target? text).1 = (engine'.target? text).1)
    (hintime : engine.InTime driver text rows) (hintime' : engine'.InTime driver text rows) :
    ∃ v, (engine.calculate driver text rows).verdict = some v ∧
      (engine'.calculate driver text rows).verdict = some v := by
  have halike := @alike_judgeFound driver answer text rows (engine.setting driver (.ofText text))
    (engine'.setting driver (.ofText text)) hquiet hquiet' rfl rfl hanswer hscores
    (engine'.target? text).1
  have hvalue : (engine.attempted driver text rows).1.toOption =
      (engine'.attempted driver text rows).1.toOption := by
    rw [inTime_iff] at hintime hintime'
    rw [attempted_eq driver text rows hquiet, htarget] at hintime ⊢
    rw [attempted_eq driver text rows hquiet'] at hintime' ⊢
    exact halike.value _ _ hintime hintime'
  refine ⟨_, (calculate_quiet driver text rows hquiet).1, ?_⟩
  rw [verdictOf_eq, hvalue, ← verdictOf_eq]
  exact (calculate_quiet driver text rows hquiet').1

end Calculate

/-- Neither the session before a calculation nor its cache shows in the verdict, and what a cache
gives for a text is the target of the text. -/
theorem history_hidden :
    (∀ (config config' : Config) (observer observer' : Observer) (pauses pauses' : List Nat)
      (actions actions' : List Action) (driver : Driver) (answer : String → Answer) (text : String)
      (rows : Option (List Row)),
      let engine := ({ config, observer, pauses } : Engine).after actions
      let engine' := ({ config := config', observer := observer', pauses := pauses' } :
        Engine).after actions'
      config' = { config with keepTargets := config'.keepTargets } →
        engine.IsQuiet → engine'.IsQuiet →
        Fingerprint.CollisionFree (text :: actions.filterMap Action.text?) →
        Fingerprint.CollisionFree (text :: actions'.filterMap Action.text?) →
        driver.AnswersBy answer →
        engine.InTime driver text rows → engine'.InTime driver text rows →
          ∃ v, (engine.calculate driver text rows).verdict = some v ∧
            (engine'.calculate driver text rows).verdict = some v) ∧
    ∀ (uses : List Cache.Use) (text : String),
      Fingerprint.CollisionFree (text :: uses.filterMap Cache.Use.text?) →
        ((Cache.empty.after uses).lookup text).1.result.map (·.target) = Target.ofText? text := by
  refine ⟨?_, Cache.map_lookup_after⟩
  intro config config' observer observer' pauses pauses' actions actions' driver answer text rows
    engine engine' hconfig hquiet hquiet' hfree hfree' hanswer hintime hintime'
  have hscores : engine.config.ScoresLike engine'.config := by
    unfold engine engine'
    rw [config_after, config_after, hconfig]
    exact ⟨rfl, rfl, rfl⟩
  have htarget : (engine.target? text).1 = (engine'.target? text).1 :=
    (target?_after rfl actions hfree).trans (target?_after rfl actions' hfree').symm
  exact verdict_eq hquiet hquiet' hscores hanswer htarget hintime hintime'

/-- An engine that has kept the target of the text under blanks around it, and one that keeps no
targets. -/
theorem history_hidden_hit :
    let driver : Driver := {
      execute := fun history _ _ => ⟨.rows [.empty], history.length⟩
      dumpState := fun _ => none }
    let actions : List Action := [.calculate driver "x = 1" none, .reset,
      .calculate driver " SELECT * FROM t " (some []), .calculate driver "x =" none, .report]
    let text := "SELECT * FROM t"
    let engine := ({ config := {}, pauses := [5, 0, 30] } : Engine).after actions
    let fresh : Engine := { config := { keepTargets := false } }
    let uses : List Cache.Use := [.lookup " x = 1", .clear, .lookup " x = ", .lookup "x = 1"]
    (engine.cache.get? (.ofText text)).isSome ∧
      (engine.calculate driver text none).verdict = (fresh.calculate driver text none).verdict ∧
      ((Cache.empty.after uses).lookup "x =").1.result.map (·.target) = Target.ofText? "x =" := by
  intro driver actions text engine fresh uses
  obtain ⟨v, hv, hv'⟩ := history_hidden.1 {} { keepTargets := false } .counters .counters
    [5, 0, 30] [] actions [] driver (fun _ => .rows [.empty]) text none rfl (fun _ => rfl)
    (fun _ => rfl) (by decide +kernel) (by decide +kernel) (fun _ _ _ => rfl) (by decide +kernel)
    (by decide +kernel)
  exact ⟨by decide +kernel, hv.trans hv'.symm, history_hidden.2 uses "x =" (by decide +kernel)⟩

end Engine

end BranchDistance
