import BranchDistance.Proofs.Evaluate.Meaning
import BranchDistance.Proofs.Target.Chain

/-!
# Negated patterns

A pattern is negated in one of two ways: by its own flag, or like every other predicate by a
negation around it.

* Where one of the two texts is missing and nothing is invalid, the pattern is missing with and
  without its flag, and only the negation around it is satisfied (`like_of_lacksText`).
* Everywhere else the flag is the negation (`like_flagged`), so the two ways have the same runs.
-/

namespace BranchDistance

/-- The negation of a number of edits asks whether there are any. -/
theorem Outcome.negate_ofFloat_ofInt (penalty : Float) (n : ℕ) :
    (ofFloat (Binary64.ofInt n)).negate penalty = ofBool penalty (decide (0 < n)) := by
  have hzero : Distance.ofFloat (Binary64.ofInt n) = .zero ↔ n = 0 := by
    rw [Distance.ofFloat_eq_zero_iff, Binary64.nonpos_iff_sign?, Binary64.sign?_ofInt]
    rcases Nat.eq_zero_or_pos n with rfl | hpos
    · simp
    · have hsign : SignType.sign (n : ℤ) = 1 := sign_pos (by omega)
      rw [hsign]
      simp [hpos.ne']
  rw [ofFloat, negate, ofBool]
  by_cases hn : n = 0
  · rw [if_pos (Distance.isZero_iff.2 (hzero.2 hn)), if_neg (by simp [hn])]
  · rw [if_neg (mt Distance.isZero_iff.1 (mt hzero.1 hn)), if_pos (by simp; omega)]

variable {scope : Scope} {operand pattern : Operand}

/-! ### Texts that are missing -/

/-- An operand is null, or a column that it needs is absent. -/
def Operand.IsMissing (scope : Scope) (o : Operand) : Prop :=
  o.value? scope = .error .missing ∨ o.value? scope = .ok .null

instance (o : Operand) : Decidable (o.IsMissing scope) :=
  inferInstanceAs (Decidable (_ ∨ _))

theorem Value.searchText?_eq_none_iff {v : Value} : v.searchText? = none ↔ v = .null := by
  cases v <;> simp [searchText?]

namespace Leaf

variable {config : Config}

/-- Nothing is invalid, but there are not two texts to match. -/
def LacksText (scope : Scope) (operand pattern : Operand) : Prop :=
  (operand.IsMissing scope ∨ pattern.IsMissing scope) ∧
    operand.value? scope ≠ .error .invalid ∧ pattern.value? scope ≠ .error .invalid

instance : Decidable (LacksText scope operand pattern) :=
  inferInstanceAs (Decidable (_ ∧ _))

theorem matching_of_null {v w : Value} (h : v = .null ∨ w = .null) (negated foldCase : Bool) :
    matching config negated foldCase v w = .missing := by
  rcases h with rfl | rfl
  · rfl
  · cases v <;> rfl

/-- Between two texts the flag is the negation. -/
theorem matching_flagged {v w : Value} (hv : v ≠ .null) (hw : w ≠ .null) (foldCase : Bool) :
    matching config true foldCase v w =
      (matching config false foldCase v w).negate config.penalty := by
  obtain ⟨text, htext⟩ := Option.ne_none_iff_exists'.1 (mt Value.searchText?_eq_none_iff.1 hv)
  obtain ⟨searched, hsearched⟩ :=
    Option.ne_none_iff_exists'.1 (mt Value.searchText?_eq_none_iff.1 hw)
  simp only [matching, htext, hsearched, if_true, Bool.false_eq_true, if_false]
  rw [Outcome.negate_ofFloat_ofInt]

theorem like_of_lacksText (h : LacksText scope operand pattern) (negated foldCase : Bool) :
    like config scope operand pattern negated foldCase = .missing := by
  obtain ⟨hmissing, hl, hr⟩ := h
  simp only [Operand.IsMissing] at hmissing
  unfold like
  generalize operand.value? scope = l at hmissing hl
  generalize pattern.value? scope = r at hmissing hr
  match l, r with
  | .error .invalid, _ => exact absurd rfl hl
  | _, .error .invalid => exact absurd rfl hr
  | .error .missing, .error .missing => rfl
  | .error .missing, .ok w => rfl
  | .ok v, .error .missing => rfl
  | .ok v, .ok w =>
    refine matching_of_null ?_ negated foldCase
    simpa using hmissing

/-- Unless a text is missing, the flag is the negation. -/
theorem like_flagged (h : ¬ LacksText scope operand pattern) (foldCase : Bool) :
    like config scope operand pattern true foldCase =
      (like config scope operand pattern false foldCase).negate config.penalty := by
  simp only [LacksText, Operand.IsMissing] at h
  unfold like
  generalize operand.value? scope = l at h
  generalize pattern.value? scope = r at h
  match l, r with
  | .error .invalid, .error cause => rfl
  | .error .invalid, .ok w => rfl
  | .error .missing, .error .invalid => rfl
  | .ok v, .error .invalid => rfl
  | .ok v, .ok w =>
    have hnull : v ≠ .null ∧ w ≠ .null := by simpa using h
    exact matching_flagged hnull.1 hnull.2 foldCase
  | .error .missing, .error .missing => exact absurd (by simp) h
  | .error .missing, .ok w => exact absurd (by simp) h
  | .ok v, .error .missing => exact absurd (by simp) h

end Leaf

namespace Setting

/-- A flagged pattern and a negated one are evaluated alike unless a text is missing; then the
flagged pattern is infinitely far and the negated one is satisfied. -/
theorem like_negated (setting : Setting) (scope : Scope) (operand pattern : Operand)
    (foldCase : Bool) :
    let flagged : Condition := .like operand pattern true foldCase
    let around : Condition := .not (.like operand pattern false foldCase)
    (¬ Leaf.LacksText scope operand pattern →
      setting.outcome scope flagged = setting.outcome scope around) ∧
    (Leaf.LacksText scope operand pattern →
      ∀ p, setting.deadline.isExpired p.elapsed = false →
        setting.distance scope flagged p = (.infinite, p) ∧
        setting.distance scope around p = (.zero, p)) := by
  intro flagged around
  refine ⟨?_, ?_⟩
  · intro h
    change setting.outcome scope (.like operand pattern true foldCase) =
      setting.outcome scope (.not (.like operand pattern false foldCase))
    rw [outcome, outcome, outcome, Leaf.like_flagged h]
    simp only [bind_assoc, pure_bind, check_check]
  · intro h p hp
    have hflagged : (setting.outcome scope flagged).run p = (.ok .missing, p) := by
      rw [run_outcome_of_queries hp flagged rfl, meaning, Leaf.like_of_lacksText h]
    have haround : (setting.outcome scope around).run p = (.ok .satisfied, p) := by
      rw [run_outcome_of_queries hp around rfl, meaning, meaning, Leaf.like_of_lacksText h]
      rfl
    unfold distance
    rw [hflagged, haround]
    exact ⟨rfl, rfl⟩

/-- A column of the row, and one that the row does not have. -/
theorem like_negated_of_row :
    let setting : Setting := { config := {} }
    let scope : Scope := ⟨⟨[⟨none, "x", .text "ab"⟩]⟩, .empty⟩
    let start : Operand := .literal (.text "a%")
    let column (name : String) : Operand := .column ⟨none, name⟩
    setting.outcome scope (.like (column "x") start true false) =
        setting.outcome scope (.not (.like (column "x") start false false)) ∧
      setting.distance scope (.like (column "y") start true false) {} = (.infinite, {}) ∧
      setting.distance scope (.not (.like (column "y") start false false)) {} = (.zero, {}) := by
  intro setting scope start column
  refine ⟨(like_negated setting scope (column "x") start false).1 (by decide), ?_⟩
  exact (like_negated setting scope (column "y") start false).2 (by decide) {} rfl

/-- Over a null the negated list and the negated range are satisfied, and so is the negation around
the pattern, but the flagged pattern is infinitely far. -/
theorem flagged_ne_negated_of_null :
    let setting : Setting := { config := {} }
    let scope : Scope := ⟨⟨[⟨none, "x", .null⟩]⟩, .empty⟩
    let x : Operand := .column ⟨none, "x"⟩
    let a : Operand := .literal (.text "a")
    let evaluate c := (setting.distance scope c {}).1
    evaluate (.like x a true false) = .infinite ∧
      evaluate (.not (.like x a false false)) = .zero ∧
      evaluate (.not (.inList x [a])) = .zero ∧
      evaluate (.not (.between x a a)) = .zero := by
  decide

end Setting

end BranchDistance
