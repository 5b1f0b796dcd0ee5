import BranchDistance.Proofs.Evaluate.Leaf
import BranchDistance.Proofs.Evaluate.Meaning

/-!
# The calculus of conditions

How the outcome of a condition is made of the outcomes of its parts, in a steady setting without a
deadline.

* Grades follow a table of four values, whatever the degrees are (`meaning_calculus`).
* Distances add up in a conjunction, a disjunction takes the least of them, and the order of its
  parts does not matter (`distance_combinations`).
-/

namespace BranchDistance

/-! ### The table of grades -/

namespace Grade

/-- The grade of the conjunction of some parts. -/
def all (grades : List Grade) : Grade :=
  if .invalid ∈ grades then .invalid
  else if .missing ∈ grades then .missing
  else if .failed ∈ grades then .failed
  else .satisfied

/-- The grade of the disjunction of some parts. -/
def any (grades : List Grade) : Grade :=
  if .satisfied ∈ grades then .satisfied
  else if .failed ∈ grades then .failed
  else if .missing ∈ grades then .missing
  else .invalid

theorem all_cons (g : Grade) (grades : List Grade) : all (g :: grades) = g ⊔ all grades := by
  by_cases hi : .invalid ∈ grades <;> by_cases hm : .missing ∈ grades <;>
    by_cases hf : .failed ∈ grades <;> cases g <;>
    simp only [all, List.mem_cons, hi, hm, hf, reduceCtorEq, or_true, or_false, if_true,
      if_false] <;> decide

theorem any_cons (g : Grade) (grades : List Grade) : any (g :: grades) = g ⊓ any grades := by
  by_cases hs : .satisfied ∈ grades <;> by_cases hf : .failed ∈ grades <;>
    by_cases hm : .missing ∈ grades <;> cases g <;>
    simp only [any, List.mem_cons, hs, hf, hm, reduceCtorEq, or_true, or_false, if_true,
      if_false] <;> decide

theorem foldl_max_eq (grades : List Grade) (g : Grade) :
    grades.foldl (· ⊔ ·) g = g ⊔ all grades := by
  induction grades generalizing g with
  | nil => exact (sup_bot_eq g).symm
  | cons g' grades ih => rw [List.foldl_cons, ih, all_cons, sup_assoc]

theorem foldl_min_eq (grades : List Grade) (g : Grade) :
    grades.foldl (· ⊓ ·) g = g ⊓ any grades := by
  induction grades generalizing g with
  | nil => exact (inf_top_eq g).symm
  | cons g' grades ih => rw [List.foldl_cons, ih, any_cons, inf_assoc]

theorem all_eq_satisfied_iff {grades : List Grade} :
    all grades = .satisfied ↔ ∀ g ∈ grades, g = .satisfied := by
  induction grades with
  | nil => exact iff_of_true rfl (by simp)
  | cons g grades ih =>
    rw [all_cons, List.forall_mem_cons, ← ih]
    exact sup_eq_bot_iff

theorem all_eq_invalid_iff {grades : List Grade} : all grades = .invalid ↔ .invalid ∈ grades := by
  induction grades with
  | nil => decide
  | cons g grades ih =>
    rw [all_cons, List.mem_cons, ← ih, eq_comm (a := invalid)]
    exact max_eq_top

theorem any_eq_satisfied_iff {grades : List Grade} :
    any grades = .satisfied ↔ .satisfied ∈ grades := by
  induction grades with
  | nil => decide
  | cons g grades ih =>
    rw [any_cons, List.mem_cons, ← ih, eq_comm (a := satisfied)]
    exact min_eq_bot

theorem any_eq_invalid_iff {grades : List Grade} :
    any grades = .invalid ↔ ∀ g ∈ grades, g = .invalid := by
  induction grades with
  | nil => exact iff_of_true rfl (by simp)
  | cons g grades ih =>
    rw [any_cons, List.forall_mem_cons, ← ih]
    exact inf_eq_top_iff

end Grade

namespace Condition

mutual

/-- The grade of a condition by the table, from the grades of the parts that are no conjunction,
disjunction or negation. -/
def gradeFrom (leaf : Condition → Grade) : Condition → Grade
  | and children => .all (gradesFrom leaf children)
  | or children => .any (gradesFrom leaf children)
  | not inner => (gradeFrom leaf inner).negate
  | compare relation left right => leaf (compare relation left right)
  | isNull operand negated => leaf (isNull operand negated)
  | between operand low high => leaf (between operand low high)
  | inList operand candidates => leaf (inList operand candidates)
  | inQuery operand query => leaf (inQuery operand query)
  | like operand pattern negated foldCase => leaf (like operand pattern negated foldCase)
  | .exists query => leaf (.exists query)

/-- The grades of several conditions by the table. -/
def gradesFrom (leaf : Condition → Grade) : List Condition → List Grade
  | [] => []
  | child :: rest => gradeFrom leaf child :: gradesFrom leaf rest

end

end Condition

/-- The outcomes of conditions obey the calculus of causes. -/
structure CauseCalculus (penalty : Float) (outcome : Condition → Outcome) : Prop where
  /-- A known distance is finite. -/
  finite : ∀ c d, outcome c = .known d → d ≠ .infinite
  /-- The distance is infinite only for the two causes. -/
  infinite : ∀ c, (outcome c).distance = .infinite ↔
    outcome c = .unknown .missing ∨ outcome c = .unknown .invalid
  conjunction : ∀ cs, (outcome (.and cs)).grade = .all (cs.map fun c => (outcome c).grade)
  /-- A conjunction is satisfied only if all of its parts are. -/
  conjunction_satisfied : ∀ cs, (outcome (.and cs)).grade = .satisfied ↔
    ∀ c ∈ cs, (outcome c).grade = .satisfied
  disjunction : ∀ cs, (outcome (.or cs)).grade = .any (cs.map fun c => (outcome c).grade)
  /-- The negation of what is satisfied is exactly the penalty away. -/
  not_satisfied : ∀ c, (outcome c).grade = .satisfied →
    ∃ d, outcome (.not c) = .known d ∧ d.value = penalty ∧ d ≠ .zero
  not_failed : ∀ c, (outcome c).grade = .failed → outcome (.not c) = .satisfied
  not_missing : ∀ c, (outcome c).grade = .missing → outcome (.not c) = .satisfied
  not_invalid : ∀ c, (outcome c).grade = .invalid → outcome (.not c) = .invalid
  /-- The grades of the leaves determine the grade of the whole. -/
  table : ∀ c, (outcome c).grade = c.gradeFrom fun leaf => (outcome leaf).grade

namespace Setting

variable {setting : Setting} (hs : setting.IsSteady) (scope : Scope)

include hs

theorem run_outcome (hd : setting.deadline = .unbounded) (c : Condition) (p : Progress) :
    ∃ q, (setting.outcome scope c).run p = (.ok (setting.meaning scope c), q) := by
  have h : setting.Settles (setting.outcome scope c) _ := settles_outcome hs c
  specialize h p
  rcases hrun : (setting.outcome scope c).run p with ⟨f | o, q⟩
  · -- only the deadline gives an evaluation up, and there is none
    rw [hrun] at h
    obtain ⟨t, -, ht⟩ := h
    rw [hd] at ht
    cases ht
  · rw [hrun] at h
    exact ⟨q, by rw [show o = setting.meaning scope c from h]⟩

theorem distance_eq (hd : setting.deadline = .unbounded) (c : Condition) (p : Progress) :
    (setting.distance scope c p).1 = (setting.meaning scope c).distance := by
  obtain ⟨q, hq⟩ := run_outcome hs scope hd c p
  rw [distance, hq]

end Setting

namespace Setting

variable {setting : Setting} (scope : Scope)

theorem grade_and (cs : List Condition) :
    (setting.meaning scope (.and cs)).grade =
      .all (cs.map fun c => (setting.meaning scope c).grade) := by
  rw [meaning, Outcome.grade_foldl_and, Grade.foldl_max_eq, meanings_eq_map, List.map_map]
  exact bot_sup_eq _

theorem grade_or (cs : List Condition) :
    (setting.meaning scope (.or cs)).grade =
      .any (cs.map fun c => (setting.meaning scope c).grade) := by
  rw [meaning, Outcome.grade_any, Grade.foldl_min_eq, meanings_eq_map, List.map_map]
  exact top_inf_eq _

theorem isSound_meaningOfIn (hv : setting.config.IsValid) (operand : Operand) (query : String) :
    (setting.meaningOfIn scope operand query).IsSound := by
  refine .ofOperand (fun v => ?_) _
  split
  · trivial
  · split
    · exact Leaf.isSound_inRows hv _ _
    · trivial

theorem isSound_meaningOfExists (hv : setting.config.IsValid) (query : String) :
    (setting.meaningOfExists query).IsSound := by
  unfold meaningOfExists
  split
  · exact (Outcome.ofBool_of_isUsable hv.1 _).1
  · trivial

mutual

/-- A known distance is finite at every depth. -/
theorem isSound_meaning (hv : setting.config.IsValid) :
    (c : Condition) → (setting.meaning scope c).IsSound
  | .compare relation left right => Leaf.isSound_compare hv scope relation left right
  | .and children => by
    rw [meaning]
    exact .foldl_and (isSound_meanings hv children) Outcome.isSound_satisfied
  | .or children => by
    rw [meaning]
    exact .any (isSound_meanings hv children)
  | .not inner => .negate hv.1 _
  | .isNull operand negated => Leaf.isSound_isNull hv scope operand negated
  | .between operand low high => Leaf.isSound_between hv scope operand low high
  | .inList operand candidates => Leaf.isSound_inList hv scope operand candidates
  | .inQuery operand query => isSound_meaningOfIn scope hv operand query
  | .like operand pattern negated foldCase =>
    Leaf.isSound_like hv scope operand pattern negated foldCase
  | .exists query => isSound_meaningOfExists hv query

theorem isSound_meanings (hv : setting.config.IsValid) :
    (cs : List Condition) → ∀ o ∈ setting.meanings scope cs, o.IsSound
  | [] => by simp [meanings]
  | child :: rest => by
    rw [meanings]
    exact List.forall_mem_cons.2 ⟨isSound_meaning hv child, isSound_meanings hv rest⟩

end

mutual

/-- The grades of the leaves determine the grade of a condition. -/
theorem grade_meaning (hv : setting.config.IsValid) : (c : Condition) →
    (setting.meaning scope c).grade = c.gradeFrom fun leaf => (setting.meaning scope leaf).grade
  | .compare .. | .isNull .. | .between .. | .inList .. | .inQuery .. | .like .. | .exists _ => rfl
  | .and children => by
    rw [grade_and, Condition.gradeFrom, ← grade_meanings hv children]
  | .or children => by
    rw [grade_or, Condition.gradeFrom, ← grade_meanings hv children]
  | .not inner => by
    rw [meaning, Outcome.grade_negate hv.1, Condition.gradeFrom, grade_meaning hv inner]

theorem grade_meanings (hv : setting.config.IsValid) : (cs : List Condition) →
    cs.map (fun c => (setting.meaning scope c).grade) =
      Condition.gradesFrom (fun leaf => (setting.meaning scope leaf).grade) cs
  | [] => rfl
  | child :: rest => by
    rw [List.map_cons, Condition.gradesFrom, ← grade_meaning hv child, grade_meanings hv rest]

end

/-- In a steady setting without a deadline every condition is evaluated, to an outcome of its own,
and these outcomes obey the calculus of causes. -/
theorem meaning_calculus (hs : setting.IsSteady) (hd : setting.deadline = .unbounded)
    (hv : setting.config.IsValid) :
    (∀ c p, ∃ q, (setting.outcome scope c).run p = (.ok (setting.meaning scope c), q)) ∧
      (∀ c p, (setting.distance scope c p).1 = (setting.meaning scope c).distance) ∧
      CauseCalculus setting.config.penalty (setting.meaning scope) := by
  refine ⟨run_outcome hs scope hd, distance_eq hs scope hd, ?_⟩
  have hsound := isSound_meaning scope hv
  constructor
  case finite =>
    intro c d h
    have hc := hsound c
    rwa [h] at hc
  case infinite =>
    intro c
    rw [Outcome.distance_eq_infinite_iff (hsound c)]
    rcases setting.meaning scope c with d | cause
    · rw [Outcome.grade_known]
      split <;> simp [Grade.isUnknown]
    · cases cause <;> simp [Grade.isUnknown, Grade.ofCause]
  case conjunction => exact grade_and scope
  case conjunction_satisfied =>
    intro cs
    rw [grade_and, Grade.all_eq_satisfied_iff, List.forall_mem_map]
  case disjunction => exact grade_or scope
  case not_satisfied =>
    intro c h
    have hpos := Distance.ofFloat_of_isUsable hv.1
    refine ⟨.ofFloat setting.config.penalty, ?_, hpos.2, (Distance.ofFloat_of_pos hpos.1).1⟩
    rw [meaning, Outcome.negate_eq, h]
    rfl
  case not_failed =>
    intro c h
    rw [meaning, Outcome.negate_eq, h]
  case not_missing =>
    intro c h
    rw [meaning, Outcome.negate_eq, h]
  case not_invalid =>
    intro c h
    rw [meaning, Outcome.negate_eq, h]
  case table => exact grade_meaning scope hv

/-- The calculus with a driver that answers one query and panics at all others. -/
theorem meaning_calculus_ofAnswers :
    let setting : Setting :=
      { config := {}
        driver := some (.ofAnswers fun query => if query = "SELECT 1" then .rows [] else .panic) }
    setting.IsSteady ∧ setting.deadline = .unbounded ∧ setting.config.IsValid ∧
      (∀ c p, (setting.distance ⟨.empty, .empty⟩ c p).1 =
        (setting.meaning ⟨.empty, .empty⟩ c).distance) ∧
      CauseCalculus 1 (setting.meaning ⟨.empty, .empty⟩) := by
  intro setting
  have hs : setting.IsSteady := isSteady_ofAnswers fun query => by split <;> rfl
  have h := meaning_calculus ⟨.empty, .empty⟩ hs rfl Config.isValid_default
  exact ⟨hs, rfl, Config.isValid_default, h.2⟩

/-- Distances add up in a conjunction; a disjunction takes the least, whatever the order of its
parts. -/
theorem distance_combinations (hs : setting.IsSteady) (hd : setting.deadline = .unbounded)
    (start : Condition → Progress) :
    let evaluate c := (setting.distance scope c (start c)).1
    (∀ cs, evaluate (.and cs) = (cs.map evaluate).foldl Distance.add .zero) ∧
      (∀ cs, evaluate (.or cs) = (cs.map evaluate).foldl Distance.min .infinite) ∧
      (∀ cs, IsLeast {d | d = .infinite ∨ ∃ c ∈ cs, d = evaluate c} (evaluate (.or cs))) ∧
      ∀ cs cs', cs.Perm cs' → evaluate (.or cs) = evaluate (.or cs') := by
  intro evaluate
  have heval (c : Condition) : evaluate c = (setting.meaning scope c).distance :=
    distance_eq hs scope hd c (start c)
  have hmap (cs : List Condition) :
      cs.map evaluate = (setting.meanings scope cs).map Outcome.distance := by
    rw [meanings_eq_map, List.map_map]
    exact List.map_congr_left fun c _ => heval c
  have hor (cs : List Condition) :
      evaluate (.or cs) = (cs.map evaluate).foldl (· ⊓ ·) .infinite := by
    rw [heval, hmap, meaning, Outcome.distance_any]
  refine ⟨fun cs => ?_, hor, fun cs => ?_, fun cs cs' h => ?_⟩
  · rw [heval, hmap, meaning]
    exact Outcome.distance_foldl_and _ _
  · rw [hor]
    have hset : {d | d = .infinite ∨ ∃ c ∈ cs, d = evaluate c} =
        {d | d = .infinite ∨ d ∈ cs.map evaluate} := by
      ext d
      simp only [Set.mem_ofPred_eq, List.mem_map, eq_comm (a := d)]
    rw [hset]
    exact Outcome.isLeast_foldl_min (cs.map evaluate) .infinite
  · rw [hor, hor]
    exact (h.map evaluate).foldl_eq _

/-- A failed subquery, one without rows and an empty conjunction, in two orders. -/
theorem distance_combinations_ofAnswers :
    let setting : Setting :=
      { config := {}
        driver := some (.ofAnswers fun query => if query = "SELECT 1" then .rows [] else .panic) }
    let evaluate c := (setting.distance ⟨.empty, .empty⟩ c {}).1
    setting.IsSteady ∧ setting.deadline = .unbounded ∧
      evaluate (.or [.exists "SELECT 2", .exists "SELECT 1", .and []]) =
        evaluate (.or [.and [], .exists "SELECT 1", .exists "SELECT 2"]) := by
  intro setting evaluate
  have hs : setting.IsSteady := isSteady_ofAnswers fun query => by split <;> rfl
  have h := distance_combinations ⟨.empty, .empty⟩ hs rfl fun _ => {}
  exact ⟨hs, rfl, h.2.2.2 _ _ (List.reverse_perm [_, _, _]).symm⟩

end Setting

end BranchDistance
