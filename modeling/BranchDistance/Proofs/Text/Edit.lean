import Mathlib.Order.Bounds.Basic
import Mathlib.Tactic

/-!
# Edits of texts

An edit inserts, deletes or replaces one character, anywhere in a text.  The distance of two texts
is the least number of edits, one after another, that make the one out of the other.

`editDistance` computes it by recursion on the first characters.  What is computed can be reached
(`edits_editDistance`), and a single edit never brings a text nearer to another by more than one
(`editDistance_le_of_edit`), so it is the least (`isLeast_editDistance`).  Since edits may be read
from either end of the texts, so may the distance (`editDistance_reverse`).
-/

namespace BranchDistance.Text

/-- One edit of a single character. -/
inductive Edit : List Char → List Char → Prop
  | insertion (u v : List Char) (c : Char) : Edit (u ++ v) (u ++ c :: v)
  | deletion (u v : List Char) (c : Char) : Edit (u ++ c :: v) (u ++ v)
  | substitution (u v : List Char) (c d : Char) : Edit (u ++ c :: v) (u ++ d :: v)

/-- A number of edits, one after another. -/
inductive Edits : ℕ → List Char → List Char → Prop
  | refl (a : List Char) : Edits 0 a a
  | step {n : ℕ} {a b c : List Char} (first : Edit a b) (rest : Edits n b c) : Edits (n + 1) a c

/-- The least number of edits that make the second text out of the first. -/
def editDistance : List Char → List Char → ℕ
  | [], b => b.length
  | a, [] => a.length
  | x :: a, y :: b =>
    min (editDistance a b + if x = y then 0 else 1)
      (min (editDistance a (y :: b) + 1) (editDistance (x :: a) b + 1))
termination_by a b => a.length + b.length

/-! ### Edits behind a common first character -/

theorem Edit.cons {a b : List Char} (h : Edit a b) (x : Char) : Edit (x :: a) (x :: b) := by
  cases h with
  | insertion u v c => exact .insertion (x :: u) v c
  | deletion u v c => exact .deletion (x :: u) v c
  | substitution u v c d => exact .substitution (x :: u) v c d

theorem Edits.cons {n : ℕ} {a b : List Char} (h : Edits n a b) (x : Char) :
    Edits n (x :: a) (x :: b) := by
  induction h with
  | refl a => exact .refl (x :: a)
  | step first rest ih => exact .step (first.cons x) ih

theorem edits_insert_all (b : List Char) : Edits b.length [] b := by
  induction b with
  | nil => exact .refl []
  | cons y b ih => exact .step (.insertion [] [] y) (ih.cons y)

theorem edits_delete_all (a : List Char) : Edits a.length a [] := by
  induction a with
  | nil => exact .refl []
  | cons x a ih => exact .step (.deletion [] a x) ih

/-! ### The distance by recursion -/

@[simp] theorem editDistance_nil_left (b : List Char) : editDistance [] b = b.length := by
  rw [editDistance]

@[simp] theorem editDistance_nil_right (a : List Char) : editDistance a [] = a.length := by
  cases a with
  | nil => rw [editDistance]
  | cons x a => rw [editDistance]; simp

theorem editDistance_cons_cons (x y : Char) (a b : List Char) :
    editDistance (x :: a) (y :: b) =
      min (editDistance a b + if x = y then 0 else 1)
        (min (editDistance a (y :: b) + 1) (editDistance (x :: a) b + 1)) := by
  rw [editDistance]

/-- As many edits as the distance says are enough. -/
theorem edits_editDistance (a b : List Char) : Edits (editDistance a b) a b := by
  fun_induction editDistance a b with
  | case1 b => exact edits_insert_all b
  | case2 a => exact edits_delete_all a
  | case3 x a y b hdiagonal hdelete hinsert =>
    -- the least of the three costs says what the first edit is, if there is one
    rcases min_choice (editDistance a b + if x = y then 0 else 1)
      (min (editDistance a (y :: b) + 1) (editDistance (x :: a) b + 1)) with h | h
    · rw [h]
      by_cases hxy : x = y
      · subst hxy
        simpa using hdiagonal.cons x
      · rw [if_neg hxy]
        exact .step (.substitution [] a x y) (hdiagonal.cons y)
    · rw [h]
      rcases min_choice (editDistance a (y :: b) + 1) (editDistance (x :: a) b + 1) with h | h
      · rw [h]
        exact .step (.deletion [] a x) hdelete
      · rw [h]
        exact .step (.insertion [] (x :: a) y) (hinsert.cons y)

theorem editDistance_cons_left_le (x : Char) (a b : List Char) :
    editDistance (x :: a) b ≤ editDistance a b + 1 := by
  cases b with
  | nil => simp
  | cons y b => rw [editDistance_cons_cons]; omega

theorem editDistance_cons_right_le (a : List Char) (y : Char) (b : List Char) :
    editDistance a (y :: b) ≤ editDistance a b + 1 := by
  cases a with
  | nil => simp
  | cons x a => rw [editDistance_cons_cons]; omega

theorem editDistance_cons_cons_le (x y : Char) (a b : List Char) :
    editDistance (x :: a) (y :: b) ≤ editDistance a b + if x = y then 0 else 1 := by
  rw [editDistance_cons_cons]
  exact min_le_left _ _

/-! ### One edit changes the distance by at most one -/

theorem editDistance_le_cons_left (x : Char) (a b : List Char) :
    editDistance a b ≤ editDistance (x :: a) b + 1 := by
  induction b with
  | nil => simp; omega
  | cons y b ih =>
    have h := editDistance_cons_right_le a y b
    rw [editDistance_cons_cons]
    omega

theorem editDistance_replace_le (x z : Char) (a b : List Char) :
    editDistance (x :: a) b ≤ editDistance (z :: a) b + 1 := by
  induction b with
  | nil => simp
  | cons y b ih =>
    have hdiagonal := editDistance_cons_cons_le x y a b
    have hdelete := editDistance_cons_left_le x a (y :: b)
    have hinsert := editDistance_cons_right_le (x :: a) y b
    rw [editDistance_cons_cons z]
    split at hdiagonal <;> omega

theorem editDistance_cons_le_cons (x : Char) {a a' : List Char}
    (h : ∀ b, editDistance a b ≤ editDistance a' b + 1) (b : List Char) :
    editDistance (x :: a) b ≤ editDistance (x :: a') b + 1 := by
  induction b with
  | nil =>
    have hnil := h []
    simp only [editDistance_nil_right, List.length_cons] at hnil ⊢
    omega
  | cons y b ih =>
    have hrest := h b
    have hall := h (y :: b)
    rw [editDistance_cons_cons, editDistance_cons_cons]
    omega

/-- An edit brings a text nearer to another by at most one. -/
theorem editDistance_le_of_edit {a a' : List Char} (h : Edit a a') (b : List Char) :
    editDistance a b ≤ editDistance a' b + 1 := by
  -- the characters before the edited place are the same on both sides
  have hbefore (u : List Char) {v v' : List Char}
      (hv : ∀ b, editDistance v b ≤ editDistance v' b + 1) :
      ∀ b, editDistance (u ++ v) b ≤ editDistance (u ++ v') b + 1 := by
    induction u with
    | nil => exact hv
    | cons x u ih => exact editDistance_cons_le_cons x ih
  cases h with
  | insertion u v c => exact hbefore u (editDistance_le_cons_left c v) b
  | deletion u v c => exact hbefore u (editDistance_cons_left_le c v) b
  | substitution u v c d => exact hbefore u (editDistance_replace_le c d v) b

theorem editDistance_le_of_edits {n : ℕ} {a b : List Char} (h : Edits n a b) :
    editDistance a b ≤ n := by
  induction h with
  | refl a =>
    -- nothing has to be done to a text that is there already, character by character
    induction a with
    | nil => simp
    | cons x a ih =>
      have h := editDistance_cons_cons_le x x a a
      rw [if_pos rfl] at h
      omega
  | @step n a b c first rest ih =>
    have h := editDistance_le_of_edit first c
    omega

/-- The distance is the least number of edits. -/
theorem isLeast_editDistance (a b : List Char) : IsLeast {n | Edits n a b} (editDistance a b) := by
  constructor
  · exact edits_editDistance a b
  · intro n h
    exact editDistance_le_of_edits h

theorem editDistance_eq_zero_iff {a b : List Char} : editDistance a b = 0 ↔ a = b := by
  constructor
  · intro h
    have hedits := edits_editDistance a b
    rw [h] at hedits
    cases hedits
    rfl
  · rintro rfl
    exact Nat.le_zero.1 (editDistance_le_of_edits (.refl a))

/-! ### Reading from the other end -/

theorem Edit.reverse {a b : List Char} (h : Edit a b) : Edit a.reverse b.reverse := by
  cases h with
  | insertion u v c => simpa using Edit.insertion v.reverse u.reverse c
  | deletion u v c => simpa using Edit.deletion v.reverse u.reverse c
  | substitution u v c d => simpa using Edit.substitution v.reverse u.reverse c d

theorem Edits.reverse {n : ℕ} {a b : List Char} (h : Edits n a b) :
    Edits n a.reverse b.reverse := by
  induction h with
  | refl a => exact .refl a.reverse
  | step first rest ih => exact .step first.reverse ih

theorem editDistance_reverse (a b : List Char) :
    editDistance a.reverse b.reverse = editDistance a b := by
  apply Nat.le_antisymm
  · exact editDistance_le_of_edits (edits_editDistance a b).reverse
  · have h := (edits_editDistance a.reverse b.reverse).reverse
    rw [List.reverse_reverse, List.reverse_reverse] at h
    exact editDistance_le_of_edits h

end BranchDistance.Text
