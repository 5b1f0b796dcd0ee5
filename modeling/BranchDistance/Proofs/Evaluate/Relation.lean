import BranchDistance.Evaluate.Relation
import BranchDistance.Proofs.Outcome

/-!
# The laws of relations

Whether a relation holds between two numbers depends on the sign of their gap (`Relation.holds`).
The score of a relation is zero where it holds and positive where it fails (`sign?_score`): the
constant that a strict relation adds at its boundary is never lost in rounding.
-/

namespace BranchDistance

open Binary64

/-- Whether a relation holds between numbers whose gap, left minus right, has a given sign. -/
def Relation.holds : Relation → SignType → Bool
  | .eq, a => a == 0
  | .ne, a => a != 0
  | .lt, a => a == -1
  | .le, a => a != 1
  | .gt, a => a == 1
  | .ge, a => a != -1

namespace Relation

variable {config : Config}

/-- A relation is scored by zero where it holds and by a positive number where it fails. -/
theorem sign?_score (hv : config.IsValid) (relation : Relation) {gap : Float} {a : SignType}
    (h : sign? gap = some a) :
    sign? (relation.score config gap) = some (if relation.holds a then 0 else 1) := by
  have hpenalty : sign? config.penalty = some 1 := (Distance.ofFloat_of_isUsable hv.1).1
  have hepsilon : sign? config.epsilon = some 1 := (Distance.ofFloat_of_isUsable hv.2).1
  have hzero : sign? 0 = some 0 := rfl
  have hneg : sign? (-gap) = some (-a) := by rw [sign?_neg, h]; rfl
  have hpos : 0 < gap ↔ a = 1 := by rw [pos_iff_sign?, h, Option.some_inj]
  have hnegative : gap < 0 ↔ a = -1 := by rw [neg_iff_sign?, h, Option.some_inj]
  cases relation with
  | eq =>
    rw [score, sign?_abs, h]
    cases a <;> rfl
  | ne =>
    have heq : (gap == 0) = true ↔ a = 0 := by rw [beq_zero_iff_sign?, h, Option.some_inj]
    simp only [score, heq]
    cases a <;> first | exact hpenalty | exact hzero
  | lt =>
    simp only [score, hnegative]
    by_cases ha : a = -1
    · rw [if_pos ha, ha, hzero]
      rfl
    · -- nothing is subtracted, so the constant at the boundary keeps the sum positive
      have ha' : 0 ≤ a := by revert ha; cases a <;> decide
      rw [if_neg ha, sign?_add h hepsilon ha' (by decide)]
      revert ha
      cases a <;> decide
  | le =>
    simp only [score, hpos]
    by_cases ha : a = 1
    · rw [if_pos ha, h, ha]
      rfl
    · rw [if_neg ha, hzero]
      revert ha
      cases a <;> decide
  | gt =>
    simp only [score, hpos]
    by_cases ha : a = 1
    · rw [if_pos ha, ha, hzero]
      rfl
    · have ha' : 0 ≤ -a := by revert ha; cases a <;> decide
      rw [if_neg ha, sign?_add hneg hepsilon ha' (by decide)]
      revert ha
      cases a <;> decide
  | ge =>
    have hposneg : 0 < -gap ↔ a = -1 := by
      rw [pos_iff_sign?, hneg, Option.some_inj]
      cases a <;> decide
    simp only [score, hposneg]
    by_cases ha : a = -1
    · rw [if_pos ha, hneg, ha]
      rfl
    · rw [if_neg ha, hzero]
      revert ha
      cases a <;> decide

end Relation

namespace Outcome

theorem ofFloat_of_sign? {x : Float} {a : SignType} (h : sign? x = some a) :
    (ofFloat x).IsSound ∧ (ofFloat x).grade = if a = 1 then .failed else .satisfied := by
  have hn : ¬ x.isNaN = true := by rw [isNaN_iff_sign?, h]; simp
  refine ⟨isSound_ofFloat hn, ?_⟩
  rw [ofFloat, grade_known]
  simp only [Distance.ofFloat_eq_zero_iff, nonpos_iff_sign?, h, Option.some_inj]
  cases a <;> decide

theorem ofBool_of_isUsable {penalty : Float} (h : Config.isUsable penalty = true) (holds : Bool) :
    (ofBool penalty holds).IsSound ∧
      (ofBool penalty holds).grade = if holds then .satisfied else .failed := by
  cases holds with
  | true => exact ⟨isSound_satisfied, rfl⟩
  | false => exact ofFloat_of_sign? (Distance.ofFloat_of_isUsable h).1

end Outcome

namespace Relation

variable {config : Config}

theorem ofGap_of_sign? (hv : config.IsValid) (relation : Relation) {gap : Float} {a : SignType}
    (h : sign? gap = some a) :
    (relation.ofGap config gap).IsSound ∧
      (relation.ofGap config gap).grade = if relation.holds a then .satisfied else .failed := by
  have hn : ¬ gap.isNaN = true := by rw [isNaN_iff_sign?, h]; simp
  have hscore := Outcome.ofFloat_of_sign? (sign?_score hv relation h)
  rw [ofGap, if_neg hn]
  refine ⟨hscore.1, hscore.2.trans ?_⟩
  cases relation.holds a <;> rfl

theorem isSound_ofGap (hv : config.IsValid) (relation : Relation) (gap : Float) :
    (relation.ofGap config gap).IsSound := by
  by_cases hn : gap.isNaN = true
  · rw [ofGap, if_pos hn]
    trivial
  · obtain ⟨a, ha⟩ := Option.ne_none_iff_exists'.1 (mt isNaN_iff_sign?.2 hn)
    exact (ofGap_of_sign? hv relation ha).1

theorem isSound_ofTexts (hv : config.IsValid) (relation : Relation) (a b : String) :
    (relation.ofTexts config a b).IsSound := by
  cases relation with
  | eq =>
    rw [ofTexts]
    split
    · exact Outcome.isSound_satisfied
    · split
      · exact (Outcome.ofFloat_of_sign? (sign?_ofInt _)).1
      · exact (Outcome.ofBool_of_isUsable hv.1 false).1
  | _ => exact isSound_ofGap hv _ _

theorem isSound_ofBools (hv : config.IsValid) (relation : Relation) (a b : Bool) :
    (relation.ofBools config a b).IsSound := by
  cases relation with
  | eq => exact (Outcome.ofBool_of_isUsable hv.1 _).1
  | ne => exact (Outcome.ofBool_of_isUsable hv.1 _).1
  | _ => trivial

/-- A known distance of a relation is finite. -/
theorem isSound_outcome (hv : config.IsValid) (relation : Relation) (l r : Value) :
    (relation.outcome config l r).IsSound := by
  unfold outcome
  rcases Matched.ofValues? l r with _ | (_ | ⟨a, b⟩ | ⟨a, b⟩ | ⟨a, b⟩ | ⟨a, b⟩)
  · trivial
  · trivial
  · exact isSound_ofGap hv relation _
  · exact isSound_ofGap hv relation _
  · exact isSound_ofTexts hv relation a b
  · exact isSound_ofBools hv relation a b

end Relation

end BranchDistance
