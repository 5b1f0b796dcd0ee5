import BranchDistance.Proofs.Binary64.Magnitude

/-!
# Comparing binary64 numbers

Any two numbers are comparable (`le_iff_not_lt`, `beq_iff_not_lt`), so those that are not negative
are ordered by their magnitudes also in the weak sense (`le_iff_units`).  Rounding an integer is
therefore monotone (`ofInt_le_ofInt`).  Zeros of both signs are equal as numbers, so opposite
numbers are the negations of each other (`beq_neg_of_isOpposite`).
-/

namespace BranchDistance.Binary64

open Float.Model (Format UnpackedFloat)
open Float.Model.UnpackedFloat

/-- Swapping the parts swaps their comparison. -/
theorem compare_swap (u v : UnpackedFloat) : u.compare v = (v.compare u).map Ordering.swap := by
  have hswap (e f : ℤ) (m n : ℕ) :
      (compare e f).then (compare m n) = ((compare f e).then (compare n m)).swap := by
    rw [Ordering.swap_then, ← Std.OrientedOrd.eq_swap, ← Std.OrientedOrd.eq_swap]
  rcases u with s | _ | s | ⟨s, m, e, h⟩ <;> rcases v with t | _ | t | ⟨t, n, f, k⟩
  case finite.finite =>
    cases s <;> cases t
    · exact congrArg (fun o : Ordering => some o.swap) (hswap e f m n)
    · rfl
    · rfl
    · exact congrArg some (hswap e f m n)
  all_goals try cases s
  all_goals try cases t
  all_goals rfl

/-- Only what is not a number is not compared. -/
theorem compare_eq_none_iff {u v : UnpackedFloat} :
    u.compare v = none ↔ signOf? u = none ∨ signOf? v = none := by
  rcases u with s | _ | s | ⟨s, m, e, h⟩ <;> rcases v with t | _ | t | ⟨t, n, f, k⟩
  all_goals try cases s
  all_goals try cases t
  all_goals simp [UnpackedFloat.compare, signOf?]

theorem compare_self {u : UnpackedFloat} (h : signOf? u ≠ none) : u.compare u = some .eq := by
  have hswap := compare_swap u u
  have hsome : u.compare u ≠ none := by
    rw [Ne, compare_eq_none_iff, or_self]
    exact h
  rcases hu : u.compare u with _ | _ | _ | _
  · exact absurd hu hsome
  · rw [hu] at hswap
    cases hswap
  · rfl
  · rw [hu] at hswap
    cases hswap

variable {x y : Float} {a b : SignType}

/-- The opposite of a number is equal to the negated number, as a number. -/
theorem beq_neg_of_isOpposite (h : IsOpposite x y) (hx : sign? x = some a) :
    (y == -x) = true := by
  rw [beq_iff_compare]
  rcases h with rfl | ⟨hx, hy⟩
  · apply compare_self
    rw [← sign?, sign?_neg, hx]
    simp
  · -- zeros of both signs are equal
    have hnegative : sign? (-x) = some 0 := by rw [sign?_neg, hx]; rfl
    obtain ⟨s, hs⟩ := view_of_sign?_zero hnegative
    obtain ⟨t, ht⟩ := view_of_sign?_zero hy
    rw [ht, hs]
    rfl

theorem le_iff_not_lt (hx : sign? x = some a) (hy : sign? y = some b) : x ≤ y ↔ ¬ y < x := by
  have hsome : (view y).compare (view x) ≠ none := by
    rw [Ne, compare_eq_none_iff, ← sign?, ← sign?, hx, hy]
    simp
  rw [le_iff_compare, lt_iff_compare, compare_swap]
  rcases h : (view y).compare (view x) with _ | _ | _ | _
  · exact absurd h hsome
  all_goals decide

/-- Numbers are equal if neither of them is below the other. -/
theorem beq_iff_not_lt (hx : sign? x = some a) (hy : sign? y = some b) :
    (x == y) = true ↔ ¬ x < y ∧ ¬ y < x := by
  have hsome : (view x).compare (view y) ≠ none := by
    rw [Ne, compare_eq_none_iff, ← sign?, ← sign?, hx, hy]
    simp
  rw [beq_iff_compare, lt_iff_compare, lt_iff_compare, compare_swap (view y)]
  rcases h : (view x).compare (view y) with _ | _ | _ | _
  · exact absurd h hsome
  all_goals decide

/-- Numbers that are not negative are ordered by their magnitudes. -/
theorem le_iff_units (hx : sign? x = some a) (hy : sign? y = some b) (ha : 0 ≤ a) (hb : 0 ≤ b) :
    x ≤ y ↔ units (view x) ≤ units (view y) := by
  rw [le_iff_not_lt hx hy, lt_iff_units hy hx hb ha, not_lt]

theorem sign_natCast_nonneg (n : ℕ) : (0 : SignType) ≤ SignType.sign (n : ℤ) :=
  sign_nonneg_iff.2 (Int.natCast_nonneg n)

theorem units_ofInt_le {m n : ℕ} (h : m ≤ n) :
    units (view (ofInt m)) ≤ units (view (ofInt n)) := by
  rw [units_ofInt, units_ofInt]
  exact min_le_min_right _ (nearest_mono (Nat.mul_le_mul_right _ h))

/-- Rounding an integer is monotone. -/
theorem ofInt_le_ofInt {m n : ℕ} (h : m ≤ n) : ofInt m ≤ ofInt n := by
  rw [le_iff_units (sign?_ofInt _) (sign?_ofInt _) (sign_natCast_nonneg m) (sign_natCast_nonneg n)]
  exact units_ofInt_le h

/-- Up to 53 digits nothing is rounded. -/
theorem units_ofInt_of_le {n : ℕ} (h : n ≤ 2 ^ 53) :
    units (view (ofInt n)) = n * 2 ^ onePlace := by
  have hlt : n * 2 ^ onePlace ≤ limit := by
    rw [← nearest_mul_two_pow h]
    exact (nearest_lt_limit (by omega)).le
  rw [units_ofInt, Int.natAbs_natCast, nearest_mul_two_pow h, min_eq_left hlt]

theorem ofInt_le_ofInt_iff {m n : ℕ} (hm : m ≤ 2 ^ 53) (hn : n ≤ 2 ^ 53) :
    ofInt m ≤ ofInt n ↔ m ≤ n := by
  rw [le_iff_units (sign?_ofInt _) (sign?_ofInt _) (sign_natCast_nonneg m) (sign_natCast_nonneg n),
    units_ofInt_of_le hm, units_ofInt_of_le hn, Nat.mul_le_mul_right_iff (Nat.two_pow_pos _)]

end BranchDistance.Binary64
