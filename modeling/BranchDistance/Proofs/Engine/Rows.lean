import BranchDistance.Proofs.Engine.History
import BranchDistance.Proofs.Evaluate.Calculus

/-!
# The least distance over rows

The search over rows begins at infinity and ends at the first row of distance zero.  What it has
found so far is `Standing`; each row keeps that up or ends the search, so what the search concludes
is the least of all scores and the place of the first zero (`Verdict.Concludes`).

The rows may be given or fetched by the probe.  In both cases the verdict of a calculation that ends
in time is the conclusion from the scores that the condition has on its own, without a deadline
(`Engine.least_over_rows`).
-/

namespace BranchDistance

/-- A verdict is what follows from the scores of some rows. -/
structure Verdict.Concludes (v : Verdict) (scores : List Distance) : Prop where
  succeeds : v.failed = false
  /-- Without rows nothing is known. -/
  none : scores = [] → v.distance = .infinite
  least : scores ≠ [] → IsLeast {d | d ∈ scores} v.distance
  /-- The first row of distance zero is the last that is evaluated. -/
  found : ∀ front back, scores = front ++ .zero :: back → .zero ∉ front →
    v.rowsEvaluated = front.length + 1
  exhausted : .zero ∉ scores → v.rowsEvaluated = scores.length

namespace Verdict

/-- The scores determine the verdict. -/
theorem Concludes.unique {v v' : Verdict} {scores : List Distance} (h : v.Concludes scores)
    (h' : v'.Concludes scores) : v = v' := by
  have hdistance : v.distance = v'.distance := by
    by_cases hnil : scores = []
    · rw [h.none hnil, h'.none hnil]
    · exact (h.least hnil).unique (h'.least hnil)
  have hcount : v.rowsEvaluated = v'.rowsEvaluated := by
    by_cases hzero : .zero ∈ scores
    · obtain ⟨front, back, heq, hfront⟩ := List.eq_append_cons_of_mem hzero
      rw [h.found front back heq hfront, h'.found front back heq hfront]
    · rw [h.exhausted hzero, h'.exhausted hzero]
  rcases v with ⟨d, n, failed⟩
  rcases v' with ⟨d', n', failed'⟩
  obtain rfl : failed = failed' := h.succeeds.trans h'.succeeds.symm
  obtain rfl : d = d' := hdistance
  obtain rfl : n = n' := hcount
  rfl

theorem concludes_noRows : noRows.Concludes [] where
  succeeds := rfl
  none _ := rfl
  least h := absurd rfl h
  found front back heq := by simp at heq
  exhausted _ := rfl

end Verdict

/-! ### The search -/

/-- What the search over rows has found in the scores so far, none of which is zero. -/
structure Standing (scores : List Distance) (least : Distance) (count : ℕ) : Prop where
  least : IsLeast {d | d = .infinite ∨ d ∈ scores} least
  nonzero : .zero ∉ scores
  count : count = scores.length

namespace Standing

variable {scores : List Distance} {least d : Distance} {count : ℕ}

theorem start : Standing [] .infinite 0 where
  least := by simp
  nonzero := List.not_mem_nil
  count := rfl

theorem least_ne_zero (h : Standing scores least count) : least ≠ .zero := by
  rintro rfl
  rcases h.least.1 with hzero | hzero
  · exact absurd hzero (by decide)
  · exact h.nonzero hzero

/-- One more row that does not satisfy the condition. -/
theorem next (h : Standing scores least count) (hd : d ≠ .zero) :
    Standing (scores ++ [d]) (least ⊓ d) (count + 1) where
  least := by
    have hset : {x | x = .infinite ∨ x ∈ scores ++ [d]} =
        {x | x = .infinite ∨ x ∈ scores} ∪ {d} := by
      ext x
      simp only [List.mem_append, List.mem_singleton, Set.mem_ofPred_eq, Set.mem_union,
        Set.mem_singleton_iff, or_assoc]
    rw [hset]
    exact h.least.union isLeast_singleton
  nonzero := by simpa [h.nonzero] using hd.symm
  count := by simp [h.count]

/-- A row that satisfies the condition ends the search. -/
theorem found (h : Standing scores least count) (rest : List Distance) :
    Verdict.Concludes ⟨.zero, count + 1, false⟩ (scores ++ .zero :: rest) where
  succeeds := rfl
  none heq := by simp at heq
  least _ := ⟨by simp, fun d _ => Distance.zero_le d⟩
  found front back heq hfront := by
    -- both places are those of the first zero
    have hlength : scores.length = front.length := by
      have hindex := congrArg (List.idxOf Distance.zero) heq
      rwa [List.idxOf_append_of_notMem h.nonzero, List.idxOf_append_of_notMem hfront,
        List.idxOf_cons_self, List.idxOf_cons_self] at hindex
    rw [h.count, hlength]
  exhausted hzero := by simp at hzero

/-- The rows are exhausted. -/
theorem exhausted (h : Standing scores least count) (hne : scores ≠ []) :
    Verdict.Concludes ⟨least, count, false⟩ scores where
  succeeds := rfl
  none hnil := absurd hnil hne
  least _ := by
    obtain ⟨hmem, hle⟩ := h.least
    refine ⟨?_, fun d hd => hle (.inr hd)⟩
    rcases hmem with rfl | hmem
    · -- nothing is below infinity, so every score is infinite
      obtain ⟨d, hd⟩ := List.exists_mem_of_ne_nil scores hne
      rwa [le_antisymm (Distance.le_infinite d) (hle (.inr hd))] at hd
    · exact hmem
  found front back heq _ := absurd (heq ▸ by simp) h.nonzero
  exhausted _ := h.count

end Standing

namespace Setting

/-- The distance that a target gives to a row on its own.  A target without a condition accepts
every row. -/
def score (setting : Setting) (target : Target) (row : Row) (p : Progress) : Distance :=
  match target.condition with
  | none => .zero
  | some c => (setting.distance ⟨row, target.aliases⟩ c p).1

end Setting

namespace Engine

variable {setting : Setting} (hs : setting.IsSteady) (hd : setting.deadline = .unbounded)

include hs hd

/-- The search over the rows that are left, after those with the given scores. -/
theorem run_best {aliases : Aliases} {c : Condition} :
    (rows : List Row) → ∀ {scores : List Distance} {least : Distance} {count : ℕ},
      Standing scores least count → scores ++ rows.map (fun row =>
        (setting.meaning ⟨row, aliases⟩ c).distance) ≠ [] → ∀ p,
      ∃ v q, (best setting aliases c least count rows).run p = (.ok v, q) ∧
        v.Concludes (scores ++ rows.map fun row => (setting.meaning ⟨row, aliases⟩ c).distance)
  | [], scores, least, count, h, hne, p => by
    rw [List.map_nil, List.append_nil] at hne ⊢
    exact ⟨_, p, rfl, h.exhausted hne⟩
  | row :: rest, scores, least, count, h, hne, p => by
    obtain ⟨q, hrun⟩ := Setting.run_outcome hs ⟨row, aliases⟩ hd c p
    rw [best, Run.run_bind_of_ok hrun, Run.run_bind_of_ok (Run.run_pause q), List.map_cons]
    dsimp only
    by_cases hzero : (setting.meaning ⟨row, aliases⟩ c).distance = .zero
    · refine ⟨⟨.zero, count + 1, false⟩, Run.paused q, ?_, ?_⟩
      · rw [hzero, Distance.min_zero, if_pos (by decide)]
        rfl
      · rw [hzero]
        exact h.found _
    · have hgoes : ¬ (least ⊓ (setting.meaning ⟨row, aliases⟩ c).distance).isZero = true := by
        rw [Distance.isZero_iff, Distance.min_eq_zero_iff, not_or]
        exact ⟨h.least_ne_zero, hzero⟩
      rw [if_neg hgoes]
      simpa only [List.append_assoc, List.singleton_append] using
        run_best rest (h.next hzero) (by simp) (Run.paused q)

/-- In a steady setting without a deadline the search concludes from the scores of the rows. -/
theorem run_overRows (target : Target) (start : Row → Progress) (rows : List Row)
    (p : Progress) :
    ∃ v q, (overRows setting target rows).run p = (.ok v, q) ∧
      v.Concludes (rows.map fun row => setting.score target row (start row)) := by
  unfold overRows
  rw [Run.run_bind_of_ok (Run.run_pause p)]
  cases rows with
  | nil => exact ⟨_, Run.paused p, rfl, Verdict.concludes_noRows⟩
  | cons row rest =>
    unfold Setting.score
    cases target.condition with
    | none => exact ⟨_, Run.paused p, rfl, Standing.start.found _⟩
    | some c =>
      simp only [Setting.distance_eq hs _ hd]
      exact run_best hs hd (row :: rest) Standing.start (by simp) (Run.paused p)

end Engine

/-! ### Both sources of rows -/

namespace Engine

variable {engine : Engine} {driver : Driver} {answer : String → Answer} {text : String}
  {target : Target}

/-- A condition on its own, with the configuration of the engine and without a deadline. -/
def calculator (engine : Engine) (driver : Driver) : Setting where
  config := engine.config
  driver := driver

theorem isSteady_calculator (hanswer : driver.AnswersBy answer)
    (hpatient : ∀ query, (answer query).isTimeout = false) :
    (engine.calculator driver).IsSteady where
  quiet _ := rfl
  stateless d hd query p := by
    cases hd
    exact (hanswer _ _ _).trans (hanswer _ _ _).symm
  patient d hd query := by
    cases hd
    rw [show ((engine.calculator driver).replyTo driver query {}).answer = answer query from
      hanswer _ _ _]
    exact hpatient query

/-- A calculation that ends in time comes to the verdict that its calculator comes to. -/
theorem verdict_of_judge (hquiet : engine.IsQuiet) (hanswer : driver.AnswersBy answer)
    (htarget : (engine.target? text).1 = .ok target) {given : Option (List Row)} {v : Verdict}
    {q : Progress}
    (hjudge : (judge (engine.calculator driver) driver text given target).run {} = (.ok v, q))
    (hintime : engine.InTime driver text given) :
    (engine.calculate driver text given).verdict = some v := by
  rw [inTime_iff, attempted_eq driver text given hquiet, htarget] at hintime
  have halike := @alike_judgeFound driver answer text given
    (engine.setting driver (.ofText text)) (engine.calculator driver) hquiet (fun _ => rfl) rfl
    rfl hanswer (.refl _) (.ok target)
  have hvalue := halike.value (engine.started text) {} hintime rfl
  rw [(calculate_quiet driver text given hquiet).1, verdictOf_eq,
    attempted_eq driver text given hquiet, htarget, hvalue, judgeFound, hjudge]
  rfl

/-- The probe of the calculator brings the rows that the driver answers. -/
theorem run_judge_probe (engine : Engine) (text : String) (hanswer : driver.AnswersBy answer)
    {query : String} {rows : List Row} (hprobe : target.probeQuery = some query)
    (hrows : answer query = .rows rows) :
    ∃ q, (judge (engine.calculator driver) driver text none target).run {} =
      (overRows (engine.calculator driver) target rows).run q := by
  have hvalue := @Setting.value_query (engine.calculator driver) driver answer (fun _ => rfl)
    hanswer .probe query {} rfl
  rw [hrows] at hvalue
  rw [judge_probe hprobe]
  rcases hrun : ((engine.calculator driver).query .probe driver query).run {} with ⟨f | result, q⟩
    <;> rw [hrun] at hvalue
  · cases hvalue
  · cases hvalue
    exact ⟨q, Run.run_bind_of_ok hrun⟩

/-- The verdict over some rows is the same whether they are given or fetched by the probe, if the
calculation ends in time: the least of their scores and the place of the first zero. -/
theorem least_over_rows (engine : Engine) (driver : Driver) (answer : String → Answer)
    (text : String) (target : Target) (rows : List Row) (start : Row → Progress)
    (hquiet : engine.IsQuiet) (htarget : (engine.target? text).1 = .ok target)
    (hanswer : driver.AnswersBy answer) (hpatient : ∀ query, (answer query).isTimeout = false) :
    ∃ v, v.Concludes (rows.map fun row => (engine.calculator driver).score target row (start row)) ∧
      (engine.InTime driver text (some rows) →
        (engine.calculate driver text (some rows)).verdict = some v) ∧
      ∀ query, target.probeQuery = some query → answer query = .rows rows →
        engine.InTime driver text none → (engine.calculate driver text none).verdict = some v := by
  have hs : (engine.calculator driver).IsSteady := isSteady_calculator hanswer hpatient
  obtain ⟨v, q, hrun, hv⟩ := run_overRows hs rfl target start rows {}
  refine ⟨v, hv, verdict_of_judge hquiet hanswer htarget hrun, fun query hprobe hrows => ?_⟩
  obtain ⟨p, hjudge⟩ := run_judge_probe engine text hanswer hprobe hrows
  obtain ⟨v', q', hrun', hv'⟩ := run_overRows hs rfl target start rows p
  rw [hv.unique hv']
  exact verdict_of_judge hquiet hanswer htarget (hjudge.trans hrun')

/-- The third row satisfies the condition, after one that is infinitely far; the fourth is not
evaluated. -/
theorem least_over_rows_probed :
    let x (n : Int64) : Row := Row.empty.insert none "x" (.int n)
    let rows := [x 1, .empty, x 3, x 9]
    let engine : Engine := { config := {} }
    let driver : Driver := {
      execute := fun history _ _ => ⟨.rows rows, history.length⟩
      dumpState := fun _ => none }
    let text := "SELECT * FROM t WHERE x = 3"
    (engine.calculate driver text (some rows)).verdict = some ⟨.zero, 3, false⟩ ∧
      (engine.calculate driver text none).verdict = some ⟨.zero, 3, false⟩ := by
  intro x rows engine driver text
  have hprobe : (engine.target? text).1.toOption.map (·.probeQuery) =
      some (some "SELECT * FROM t") := by decide +kernel
  obtain ⟨target, htarget⟩ : ∃ target, (engine.target? text).1 = .ok target := by
    cases hresult : (engine.target? text).1 with
    | ok target => exact ⟨target, rfl⟩
    | error e => rw [hresult] at hprobe; cases hprobe
  rw [htarget] at hprobe
  obtain ⟨v, -, hgiven, hprobed⟩ := least_over_rows engine driver (fun _ => .rows rows) text target
    rows (fun _ => {}) (fun _ => rfl) htarget (fun _ _ _ => rfl) (fun _ => rfl)
  have hintime : engine.InTime driver text (some rows) := by decide +kernel
  have hintime' : engine.InTime driver text none := by decide +kernel
  have hverdict : (engine.calculate driver text (some rows)).verdict = some ⟨.zero, 3, false⟩ := by
    decide +kernel
  have hv : v = ⟨.zero, 3, false⟩ := Option.some.inj ((hgiven hintime).symm.trans hverdict)
  exact ⟨hverdict, hv ▸ hprobed _ (Option.some.inj hprobe) rfl hintime'⟩

/-- A calculation that outlasts its deadline after its last row still has its verdict. -/
example :
    let row : Row := Row.empty.insert none "x" (.int 1)
    let engine : Engine := { config := { timeoutMillis := 200 }, pauses := [150, 100] }
    ¬ engine.InTime .unattached "x = 1" (some [row]) ∧
      (engine.calculate .unattached "x = 1" (some [row])).verdict = some ⟨.zero, 1, false⟩ := by
  decide +kernel

/-- Without time, or with a sink that panics, there is no verdict over a row that satisfies the
condition, although the driver never gives a query up. -/
theorem no_verdict_over_rows :
    let row : Row := Row.empty.insert none "x" (.int 1)
    let driver : Driver := {
      execute := fun _ _ _ => ⟨.rows [row], 500⟩
      dumpState := fun _ => some "" }
    let text := "EXISTS (SELECT 1 FROM t)"
    let hurried : Engine := { config := { timeoutMillis := 200 } }
    let sink : Sink := ⟨fun | .cacheMiss => some ⟨some "sink str"⟩ | _ => none⟩
    let watched : Engine := { config := {}, observer := .sink sink }
    driver.AnswersBy (fun _ => .rows [row]) ∧ ∀ engine ∈ [hurried, watched],
      (engine.target? text).1.toOption.map (fun target =>
        (engine.calculator driver).score target row {}) = some .zero ∧
      (engine.calculate driver text (some [row])).verdict = some .failure ∧
      ¬ Verdict.failure.Concludes [.zero] := by
  intro row driver text hurried sink watched
  have hfailure : ¬ Verdict.failure.Concludes [.zero] := fun h => nomatch h.succeeds
  refine ⟨fun _ _ _ => rfl, fun engine hengine => ⟨?_, ?_, hfailure⟩⟩ <;>
    obtain rfl | rfl := List.mem_pair.1 hengine <;> decide +kernel

end Engine

end BranchDistance
