import BranchDistance.Proofs.Evaluate.Leaf
import BranchDistance.Proofs.Evaluate.Query
import BranchDistance.Proofs.Evaluate.Replacement

/-!
# Ranges and memberships

A range is short for two comparisons, and a membership in a list for a disjunction of equalities
(`Condition.Expands`).  The short form reads its operand once, the long form once in each
comparison.

* If the operand has a value, both forms mean the same (`meaning_expands`), so one may stand for
  the other inside any condition.
* If it has none, both forms are unknown and so infinitely far (`distance_meaning_expands`).  The
  causes may differ: the long form also sees the faults of the bounds and candidates.

A membership in a subquery asks of the list of the first values only whether it has a hit.
-/

namespace BranchDistance

/-- The second condition is the long form of the first one, a range or a membership of an
operand. -/
inductive Condition.Expands (operand : Operand) : Condition → Condition → Prop
  | between (low high : Operand) :
    Expands operand (.between operand low high)
      (.and [.compare .ge operand low, .compare .le operand high])
  | inList (candidates : List Operand) :
    Expands operand (.inList operand candidates) (.or (candidates.map (.compare .eq operand)))

/-! ### Comparisons of one operand -/

namespace Leaf

variable {config : Config} {scope : Scope} {operand : Operand}

theorem compare_of_value {v : Value} (h : operand.value? scope = .ok v) (relation : Relation)
    (other : Operand) :
    compare config scope relation operand other = against config scope relation v other := by
  unfold compare against
  rw [h]
  cases other.value? scope <;> rfl

theorem distance_compare_of_error {cause : Cause} (h : operand.value? scope = .error cause)
    (relation : Relation) (other : Operand) :
    (compare config scope relation operand other).distance = .infinite := by
  unfold compare
  rw [h]
  cases other.value? scope <;> rfl

end Leaf

/-! ### Disjunctions -/

namespace Outcome

theorem distance_any_of_infinite {os : List Outcome} (h : ∀ o ∈ os, o.distance = .infinite) :
    (any os).distance = .infinite := by
  rw [distance_any]
  obtain hmin | hmin := (isLeast_foldl_min (os.map distance) .infinite).1
  · exact hmin
  · obtain ⟨o, ho, heq⟩ := List.mem_map.1 hmin
    rw [← heq]
    exact h o ho

theorem isSatisfied_orAll (best : Outcome) (os : List Outcome) :
    (best.orAll os).isSatisfied = (best.isSatisfied || os.any isSatisfied) := by
  induction os generalizing best with
  | nil => simp [orAll]
  | cons o os ih =>
    rw [orAll, List.any_cons]
    by_cases ho : o.isSatisfied = true
    · simp [ho]
    · rw [if_neg ho, ih, isSatisfied_or, Bool.or_assoc]

/-- A disjunction is satisfied exactly if one of its parts is, wherever it stops. -/
theorem isSatisfied_any (os : List Outcome) : (any os).isSatisfied = os.any isSatisfied := by
  cases os with
  | nil => rfl
  | cons o os =>
    rw [any, List.any_cons]
    by_cases ho : o.isSatisfied = true
    · simp [ho]
    · rw [if_neg ho, isSatisfied_orAll]

end Outcome

namespace Setting

variable {setting : Setting} {scope : Scope} {operand : Operand} {c c' : Condition}

/-! ### The long forms -/

theorem queries_of_expands (h : c.Expands operand c') : c.queries = [] ∧ c'.queries = [] := by
  cases h with
  | between low high => exact ⟨rfl, rfl⟩
  | inList candidates =>
    refine ⟨rfl, ?_⟩
    show Condition.queriesOfAll _ = []
    induction candidates with
    | nil => rfl
    | cons candidate candidates ih => exact ih

theorem meaning_expands {v : Value} (hv : operand.value? scope = .ok v)
    (h : c.Expands operand c') : setting.meaning scope c = setting.meaning scope c' := by
  cases h with
  | between low high =>
    simp only [meaning, meanings, List.foldl_cons, List.foldl_nil, Outcome.satisfied_and]
    rw [Leaf.compare_of_value hv, Leaf.compare_of_value hv]
    unfold Leaf.between
    rw [hv]
    rfl
  | inList candidates =>
    have hcompare : setting.meaning scope ∘ Condition.compare .eq operand =
        Leaf.against setting.config scope .eq v := by
      funext candidate
      rw [Function.comp_apply, meaning, Leaf.compare_of_value hv]
    rw [meaning, meaning, meanings_eq_map, List.map_map, hcompare]
    unfold Leaf.inList
    rw [hv]
    rfl

/-- The distances of both forms agree even if the operand has no value. -/
theorem distance_meaning_expands (h : c.Expands operand c') :
    (setting.meaning scope c).distance = (setting.meaning scope c').distance := by
  cases hv : operand.value? scope with
  | ok v => rw [meaning_expands hv h]
  | error cause =>
    -- every comparison of the long form is infinitely far, as the short form is
    cases h with
    | between low high =>
      have hshort : (Leaf.between setting.config scope operand low high).distance = .infinite := by
        unfold Leaf.between
        rw [hv]
        rfl
      simp only [meaning, meanings, List.foldl_cons, List.foldl_nil, Outcome.satisfied_and,
        Outcome.distance_and, Leaf.distance_compare_of_error hv]
      rw [hshort, Distance.add_infinite]
    | inList candidates =>
      have hshort : (Leaf.inList setting.config scope operand candidates).distance = .infinite := by
        unfold Leaf.inList
        rw [hv]
        rfl
      rw [meaning, meaning, hshort, meanings_eq_map, List.map_map]
      symm
      apply Outcome.distance_any_of_infinite
      intro o ho
      obtain ⟨candidate, -, rfl⟩ := List.mem_map.1 ho
      rw [Function.comp_apply, meaning]
      exact Leaf.distance_compare_of_error hv .eq candidate

/-! ### Memberships in subqueries -/

theorem run_inQuery_of_rows {query : String} {p : Progress} {driver : Driver} {rows : List Row}
    {v : Value} (h : setting.Brings .subselect query p driver rows)
    (hv : operand.value? scope = .ok v) (hnull : v.isNull = false) :
    (setting.outcome scope (.inQuery operand query)).run p =
      (.ok (Leaf.inRows setting.config v rows), setting.queried .subselect driver query p) := by
  have hexpired : ¬ setting.deadline.isExpired p.elapsed = true :=
    Bool.eq_false_iff.1 h.isExpired_eq_false
  rw [outcome, run_check_bind, if_neg hexpired]
  unfold inQuery
  rw [hv]
  simp only [hnull, Bool.false_eq_true, if_false]
  rw [Run.run_bind_of_ok h.run_subquery]
  rfl

/-- A membership in rows is satisfied exactly if the one in the list of their first values is. -/
theorem isSatisfied_inRows {config : Config} (hvalid : config.IsValid) {v : Value}
    (hv : operand.value? scope = .ok v) (rows : List Row) :
    (Leaf.inRows config v rows).isSatisfied =
      (Leaf.inList config scope operand
        ((rows.filterMap Row.first?).map .literal)).isSatisfied := by
  have hlist : (Leaf.inList config scope operand
      ((rows.filterMap Row.first?).map .literal)).isSatisfied =
        (rows.filterMap Row.first?).any fun first =>
          (Relation.eq.outcome config v first).isSatisfied := by
    unfold Leaf.inList
    rw [hv]
    show (Outcome.any _).isSatisfied = _
    rw [Outcome.isSatisfied_any, List.map_map, List.any_map]
    rfl
  rw [hlist]
  unfold Leaf.inRows
  generalize (rows.filterMap Row.first?).any _ = hit
  cases hit with
  | true => rfl
  | false =>
    show (Distance.ofFloat config.penalty).isZero = false
    rw [Bool.eq_false_iff, ne_eq, Distance.isZero_iff]
    exact (Distance.ofFloat_of_pos (Distance.ofFloat_of_isUsable hvalid.1).1).1

theorem value_distance_inRows {config : Config} (hvalid : config.IsValid) {v : Value}
    {rows : List Row} (h : (Leaf.inRows config v rows).distance ≠ .zero) :
    (Leaf.inRows config v rows).distance.value = config.penalty := by
  unfold Leaf.inRows at h ⊢
  revert h
  generalize (rows.filterMap Row.first?).any _ = hit
  intro h
  cases hit with
  | true => exact absurd rfl h
  | false => exact (Distance.ofFloat_of_isUsable hvalid.1).2

/-- Ranges and memberships in lists are as far as their long forms, also within conjunctions and
disjunctions; if the operand has a value, the one form may stand for the other in every condition.
A membership in a subquery is satisfied exactly if the one in the list of the first values is, and
otherwise costs the penalty. -/
theorem expansions_agree (setting : Setting) (hvalid : setting.config.IsValid) (scope : Scope)
    (operand : Operand) :
    (∀ c c', c.ReplacedUnnegated (Condition.Expands operand) c' →
      ∀ p, setting.distance scope c p = setting.distance scope c' p) ∧
    (∀ v, operand.value? scope = .ok v →
      ∀ c c', c.Replaced (Condition.Expands operand) c' →
        setting.outcome scope c = setting.outcome scope c') ∧
    ∀ v, operand.value? scope = .ok v → v.isNull = false →
      ∀ query p driver rows, setting.Brings .subselect query p driver rows →
        let list := Condition.inList operand ((rows.filterMap Row.first?).map .literal)
        let member := (setting.distance scope (.inQuery operand query) p).1
        (member = .zero ↔ (setting.distance scope list p).1 = .zero) ∧
          (member ≠ .zero → member.value = setting.config.penalty) := by
  refine ⟨?_, ?_, ?_⟩
  · intro c c' h p
    refine distance_of_sameDistance (sameDistance_replaced ?_ h) p
    intro d d' hd
    obtain ⟨hq, hq'⟩ := queries_of_expands hd
    exact sameDistance_of_meaning hq hq' (distance_meaning_expands hd)
  · intro v hv c c' h
    apply outcome_replaced _ h
    intro d d' hd
    obtain ⟨hq, hq'⟩ := queries_of_expands hd
    exact outcome_of_meaning hq hq' (meaning_expands hv hd)
  · intro v hv hnull query p driver rows h list member
    have hlist : (setting.distance scope list p).1 = (setting.meaning scope list).distance := by
      unfold distance
      rw [run_outcome_of_queries h.isExpired_eq_false _ rfl]
    have hmember : member = (Leaf.inRows setting.config v rows).distance := by
      show (setting.distance scope (.inQuery operand query) p).1 = _
      unfold distance
      rw [run_inQuery_of_rows h hv hnull]
    rw [hlist, hmember]
    refine ⟨?_, value_distance_inRows hvalid⟩
    rw [← Outcome.isSatisfied_iff_distance, ← Outcome.isSatisfied_iff_distance,
      isSatisfied_inRows hvalid hv, meaning]

/-- A negated range with a null bound and a column that is absent, and a membership without a hit in
rows of which one has no cells. -/
theorem expansions_agree_of_row :
    let rows : List Row := [⟨[]⟩, ⟨[⟨none, "y", .int 4⟩]⟩]
    let setting : Setting := { config := {}, driver := some (.ofAnswers fun _ => .rows rows) }
    let scope : Scope := ⟨⟨[⟨none, "x", .int 2⟩]⟩, .empty⟩
    let x : Operand := .column ⟨none, "x"⟩
    let low : Operand := .literal .null
    let high : Operand := .column ⟨none, "z"⟩
    x.value? scope = .ok (.int 2) ∧
      (∀ p, setting.distance scope (.inList x []) p = setting.distance scope (.or []) p) ∧
      setting.outcome scope (.not (.between x low high)) =
        setting.outcome scope (.not (.and [.compare .ge x low, .compare .le x high])) ∧
      (setting.distance scope (.inQuery x "SELECT y FROM t") {}).1.value =
        setting.config.penalty := by
  intro rows setting scope x low high
  have hx : x.value? scope = .ok (.int 2) := by decide
  obtain ⟨hdistance, houtcome, hquery⟩ := expansions_agree setting Config.isValid_default scope x
  have hbrings : setting.Brings .subselect "SELECT y FROM t" {}
      (.ofAnswers fun _ => .rows rows) rows := ⟨rfl, rfl, rfl, rfl⟩
  obtain ⟨hzero, hpenalty⟩ := hquery _ hx rfl _ _ _ _ hbrings
  have hlist : ¬ (setting.distance scope
      (.inList x ((rows.filterMap Row.first?).map .literal)) {}).1 = .zero := by
    decide +kernel
  exact ⟨hx, hdistance _ _ (.here (.inList [])),
    houtcome _ hx _ _ (.not (.here (.between low high))), hpenalty (mt hzero.1 hlist)⟩

end Setting

end BranchDistance
