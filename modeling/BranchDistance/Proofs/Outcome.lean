import BranchDistance.Outcome
import BranchDistance.Proofs.Distance

/-!
# The laws of outcomes

An outcome has one of four grades: satisfied, failed, or unknown for one of two causes.  In this
order the grades form a chain; the grade of a conjunction is the greater of the grades of its parts
and that of a disjunction the smaller one (`grade_and`, `grade_or`).  Negation is not antitone: it
moves a missing outcome to the bottom and leaves an invalid one at the top (`grade_negate`).

Distances forget the causes.  They add up in a conjunction, and a disjunction takes the least of
them (`distance_and`, `distance_or`).

`IsSound` says that a known distance is finite.  All operations keep it.
-/

namespace BranchDistance

open Binary64

/-- What an outcome says, without its degree. -/
inductive Grade where
  | satisfied
  | failed
  | missing
  | invalid
  deriving DecidableEq, Repr

namespace Grade

/-- The place of a grade in the chain. -/
def rank : Grade → ℕ
  | satisfied => 0
  | failed => 1
  | missing => 2
  | invalid => 3

theorem rank_injective : Function.Injective rank := by
  intro a b h
  cases a <;> cases b <;> first | rfl | cases h

/-- Grades are ordered from satisfied to invalid. -/
instance : LinearOrder Grade := LinearOrder.lift' rank rank_injective

instance : BoundedOrder Grade where
  top := invalid
  bot := satisfied
  le_top g := by cases g <;> decide
  bot_le g := by cases g <;> decide

/-- The grade of a cause. -/
def ofCause : Cause → Grade
  | .missing => missing
  | .invalid => invalid

/-- The grade of a negation. -/
def negate : Grade → Grade
  | satisfied => failed
  | failed => satisfied
  | missing => satisfied
  | invalid => invalid

/-- Whether an outcome of this grade has no distance. -/
def isUnknown : Grade → Bool
  | satisfied => false
  | failed => false
  | missing => true
  | invalid => true

theorem negate_eq_satisfied_iff {g : Grade} (h : g ≠ .invalid) :
    g.negate = .satisfied ↔ g ≠ .satisfied := by
  cases g with
  | invalid => exact absurd rfl h
  | _ => decide

end Grade

namespace Outcome

/-- The grade of an outcome. -/
def grade : Outcome → Grade
  | known d => if d.isZero then .satisfied else .failed
  | unknown cause => .ofCause cause

theorem grade_known (d : Distance) :
    (known d).grade = if d = .zero then .satisfied else .failed := by
  by_cases h : d = .zero
  · rw [if_pos h, grade, if_pos (Distance.isZero_iff.2 h)]
  · rw [if_neg h, grade, if_neg (mt Distance.isZero_iff.1 h)]

@[simp] theorem grade_unknown (cause : Cause) : (unknown cause).grade = .ofCause cause := rfl

@[simp] theorem grade_satisfied : satisfied.grade = .satisfied := rfl

@[simp] theorem grade_missing : missing.grade = .missing := rfl

@[simp] theorem grade_invalid : invalid.grade = .invalid := rfl

theorem grade_eq_invalid_iff {o : Outcome} : o.grade = .invalid ↔ o = .invalid := by
  cases o with
  | known d =>
    rw [grade_known]
    split <;> simp [invalid]
  | unknown cause => cases cause <;> decide

theorem eq_satisfied_of_isSatisfied {o : Outcome} (h : o.isSatisfied = true) : o = satisfied := by
  cases o with
  | known d => rw [Distance.isZero_iff.1 h]; rfl
  | unknown cause => cases h

/-! ### Grades of combinations -/

theorem grade_and (a b : Outcome) : (a.and b).grade = a.grade ⊔ b.grade := by
  cases a with
  | known d =>
    cases b with
    | known e =>
      simp only [Outcome.and, grade_known, Distance.add_eq_zero_iff]
      by_cases hd : d = .zero <;> by_cases he : e = .zero <;>
        simp only [hd, he, and_self, and_true, and_false, if_true, if_false] <;> decide
    | unknown cause =>
      rw [Outcome.and, grade_known]
      cases cause <;> split <;> decide
  | unknown cause =>
    cases b with
    | known e =>
      rw [Outcome.and, grade_known]
      cases cause <;> split <;> decide
    | unknown cause' => cases cause <;> cases cause' <;> decide

theorem grade_or (a b : Outcome) : (a.or b).grade = a.grade ⊓ b.grade := by
  cases a with
  | known d =>
    cases b with
    | known e =>
      change (known (d ⊓ e)).grade = _
      simp only [grade_known, Distance.min_eq_zero_iff]
      by_cases hd : d = .zero <;> by_cases he : e = .zero <;>
        simp only [hd, he, or_self, or_true, or_false, if_true, if_false] <;> decide
    | unknown cause =>
      rw [Outcome.or, grade_known]
      cases cause <;> split <;> decide
  | unknown cause =>
    cases b with
    | known e => cases cause <;> (rw [Outcome.or, grade_known]; split <;> decide)
    | unknown cause' => cases cause <;> cases cause' <;> decide

/-- Negation asks only for the grade. -/
theorem negate_eq (penalty : Float) (o : Outcome) :
    o.negate penalty = match o.grade with
      | .satisfied => ofFloat penalty
      | .failed => satisfied
      | .missing => satisfied
      | .invalid => invalid := by
  cases o with
  | known d =>
    rw [negate, grade_known]
    by_cases hd : d = .zero
    · rw [if_pos (Distance.isZero_iff.2 hd), if_pos hd]
    · rw [if_neg (mt Distance.isZero_iff.1 hd), if_neg hd]
  | unknown cause => cases cause <;> rfl

theorem grade_negate {penalty : Float} (h : Config.isUsable penalty = true) (o : Outcome) :
    (o.negate penalty).grade = o.grade.negate := by
  have hfail : (ofFloat penalty).grade = .failed := by
    rw [ofFloat, grade_known, if_neg (Distance.ofFloat_of_pos (Distance.ofFloat_of_isUsable h).1).1]
  rw [negate_eq]
  cases o.grade <;> first | exact hfail | rfl

/-! ### Distances of combinations -/

theorem distance_and (a b : Outcome) : (a.and b).distance = a.distance + b.distance := by
  cases a <;> cases b <;> simp [Outcome.and, distance]

theorem distance_or (a b : Outcome) : (a.or b).distance = a.distance ⊓ b.distance := by
  cases a with
  | known d =>
    cases b with
    | known e => rfl
    | unknown cause => simp [Outcome.or, distance]
  | unknown cause =>
    cases b with
    | known e => cases cause <;> simp [Outcome.or, distance]
    | unknown cause' =>
      cases cause <;> cases cause' <;> simp [Outcome.or, distance, missing, invalid]

/-! ### Neutral outcomes -/

@[simp] theorem satisfied_and (o : Outcome) : satisfied.and o = o := by
  cases o with
  | known d => exact congrArg known (Distance.zero_add d)
  | unknown cause => rfl

@[simp] theorem invalid_or (o : Outcome) : invalid.or o = o := by
  cases o with
  | known d => rfl
  | unknown cause => cases cause <;> rfl

/-- A disjunction is satisfied exactly if one of its parts is. -/
theorem isSatisfied_or (a b : Outcome) :
    (a.or b).isSatisfied = (a.isSatisfied || b.isSatisfied) := by
  have hiff (o : Outcome) : o.isSatisfied = true ↔ o.grade = .satisfied := by
    cases o with
    | known d => rw [isSatisfied, Distance.isZero_iff, grade_known]; split <;> simp_all
    | unknown cause => cases cause <;> simp [isSatisfied, Grade.ofCause]
  rw [Bool.eq_iff_iff, Bool.or_eq_true, hiff, hiff, hiff, grade_or]
  exact min_eq_bot

/-! ### Known distances are finite -/

/-- A known distance is finite. -/
def IsSound : Outcome → Prop
  | known d => d ≠ .infinite
  | unknown _ => True

theorem isSound_ofFloat {x : Float} (h : ¬ x.isNaN = true) : (ofFloat x).IsSound :=
  mt Distance.ofFloat_eq_infinite_iff.1 h

theorem isSound_satisfied : satisfied.IsSound := by
  change Distance.zero ≠ .infinite
  decide

theorem IsSound.and {a b : Outcome} (ha : a.IsSound) (hb : b.IsSound) : (a.and b).IsSound := by
  cases a <;> cases b <;> try trivial
  exact mt Distance.add_eq_infinite_iff.1 (not_or.2 ⟨ha, hb⟩)

theorem IsSound.or {a b : Outcome} (ha : a.IsSound) (hb : b.IsSound) : (a.or b).IsSound := by
  cases a with
  | known d =>
    cases b with
    | known e => exact mt Distance.min_eq_infinite_iff.1 (fun h => ha h.1)
    | unknown cause => exact ha
  | unknown cause =>
    cases b with
    | known e => cases cause <;> exact hb
    | unknown cause' => cases cause <;> cases cause' <;> trivial

theorem distance_eq_infinite_iff {o : Outcome} (h : o.IsSound) :
    o.distance = .infinite ↔ o.grade.isUnknown = true := by
  cases o with
  | known d =>
    refine iff_of_false h ?_
    rw [grade_known]
    split <;> decide
  | unknown cause => cases cause <;> decide

theorem distance_eq_zero_iff {o : Outcome} : o.distance = .zero ↔ o.grade = .satisfied := by
  cases o with
  | known d =>
    rw [grade_known, distance]
    by_cases h : d = .zero <;> simp [h]
  | unknown cause => cases cause <;> decide

end Outcome

end BranchDistance
