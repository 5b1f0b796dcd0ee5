import BranchDistance.Proofs.Binary64.Sign

/-!
# Symmetries of binary64 arithmetic

Sums and products do not depend on the order of their operands.  Rounding treats both signs alike,
so the negated operands have the negated sum; only a sum that is exactly zero is a positive zero
both ways.  `IsOpposite` allows for that: swapping the operands of a difference gives the opposite
(`isOpposite_sub`), and so does negating an integer before it is rounded (`isOpposite_ofInt`).
-/

namespace BranchDistance.Binary64

open Float.Model (Format UnpackedFloat)
open Float.Model.UnpackedFloat

/-! ### The order of operands -/

theorem add_parts_comm (u v : UnpackedFloat) : add .binary64 u v = add .binary64 v u := by
  cases u <;> cases v
  case infinity.infinity s t => cases s <;> cases t <;> rfl
  case zero.zero s t => cases s <;> cases t <;> rfl
  case finite.finite s m e hm t n f hn =>
    simp only [add]
    rw [Int.min_comm, Int.add_comm]
  all_goals rfl

theorem mul_parts_comm (u v : UnpackedFloat) : mul .binary64 u v = mul .binary64 v u := by
  have hsign (s t : Sign) : s * t = t * s := by cases s <;> cases t <;> rfl
  cases u <;> cases v
  case finite.finite s m e hm t n f hn =>
    simp only [mul]
    rw [hsign, Nat.mul_comm, Int.add_comm]
  all_goals simp only [mul]
  all_goals rw [hsign]

protected theorem add_comm (x y : Float) : x + y = y + x :=
  congrArg (fun u => Float.ofModel (.pack u)) (add_parts_comm (view x) (view y))

protected theorem mul_comm (x y : Float) : x * y = y * x :=
  congrArg (fun u => Float.ofModel (.pack u)) (mul_parts_comm (view x) (view y))

/-! ### Negation -/

protected theorem neg_neg (x : Float) : - -x = x := by
  apply view_injective
  rw [view_neg, view_neg]
  rcases view x with s | _ | s | ⟨s, m, e, h⟩
  all_goals try cases s
  all_goals rfl

theorem abs_neg (x : Float) : (-x).abs = x.abs := by
  apply view_injective
  rw [view_abs, view_neg, view_abs]
  cases view x <;> rfl

/-- A difference is the sum with the negation. -/
theorem sub_eq (x y : Float) : x - y = x + -y := by
  have hparts (u v : UnpackedFloat) : sub .binary64 u v = add .binary64 u v.neg := by
    cases u <;> cases v
    case finite.finite s m e hm t n f hn =>
      have happly (k : ℤ) : (-t).apply k = -t.apply k := by
        cases t
        · exact (Int.neg_neg k).symm
        · rfl
      simp only [sub, add, UnpackedFloat.neg, happly, Int.sub_eq_add_neg]
    all_goals rfl
  have hneg : view (-y) = (view y).neg := view_neg y
  change Float.ofModel (.pack (sub .binary64 (view x) (view y))) =
    Float.ofModel (.pack (add .binary64 (view x) (view (-y))))
  rw [hparts, hneg]

/-- Both signs are rounded alike. -/
theorem round_neg (s : Sign) (m : ℕ) (e : ℤ) :
    UnpackedFloat.round .binary64 (-s) m e = (UnpackedFloat.round .binary64 s m e).neg := by
  simp only [UnpackedFloat.round, roundWithAccuracy]
  split <;> rfl

theorem normalize_of_ne_zero {n : ℤ} (h : n ≠ 0) (e : ℤ) (z : Sign) :
    UnpackedFloat.normalize .binary64 (-n) e z =
      (UnpackedFloat.normalize .binary64 n e z).neg := by
  rcases lt_trichotomy n 0 with hn | hn | hn
  · have hcmp : compare n 0 = .lt := Int.compare_eq_lt.2 hn
    have hcmp' : compare (-n) 0 = .gt := Int.compare_eq_gt.2 (by omega)
    simp only [UnpackedFloat.normalize, hcmp, hcmp']
    exact round_neg .negative _ _
  · exact absurd hn h
  · have hcmp : compare n 0 = .gt := Int.compare_eq_gt.2 hn
    have hcmp' : compare (-n) 0 = .lt := Int.compare_eq_lt.2 (by omega)
    simp only [UnpackedFloat.normalize, hcmp, hcmp', Int.neg_neg]
    exact round_neg .positive _ _

/-! ### Opposite numbers -/

/-- The parts of opposite numbers: the signs differ, unless both numbers are zero. -/
def AreOpposite (u v : UnpackedFloat) : Prop := v = u.neg ∨ signOf? u = some 0 ∧ signOf? v = some 0

/-- The second number is the negated first one, but for the sign of a zero. -/
def IsOpposite (x y : Float) : Prop := y = -x ∨ sign? x = some 0 ∧ sign? y = some 0

theorem AreOpposite.isOpposite {x y : Float} {u v : UnpackedFloat} (h : AreOpposite u v)
    (hx : view x = capped u) (hy : view y = capped v) : IsOpposite x y := by
  rcases h with rfl | ⟨hu, hv⟩
  · left
    apply view_injective
    rw [hy, view_neg, hx, capped_neg]
  · right
    rw [sign?, sign?, hx, hy, signOf?_capped, signOf?_capped]
    exact ⟨hu, hv⟩

theorem areOpposite_normalize (n e : ℤ) :
    AreOpposite (UnpackedFloat.normalize .binary64 n e .positive)
      (UnpackedFloat.normalize .binary64 (-n) e .positive) := by
  by_cases h : n = 0
  · subst h
    exact .inr ⟨rfl, rfl⟩
  · exact .inl (normalize_of_ne_zero h e .positive)

theorem areOpposite_add (u v : UnpackedFloat) :
    AreOpposite (add .binary64 u v) (add .binary64 u.neg v.neg) := by
  cases u <;> cases v
  case infinity.infinity s t => cases s <;> cases t <;> exact .inl rfl
  -- zeros of both signs add up to the positive zero, and so do their negations
  case zero.zero s t => cases s <;> cases t <;> exact .inr ⟨rfl, rfl⟩
  case finite.finite s m e hm t n f hn =>
    have happly (s : Sign) (k : ℤ) : (-s).apply k = -s.apply k := by
      cases s
      · exact (Int.neg_neg k).symm
      · rfl
    simp only [add, UnpackedFloat.neg, happly, ← Int.neg_add]
    exact areOpposite_normalize _ _
  all_goals exact .inl rfl

theorem isOpposite_add (x y : Float) : IsOpposite (x + y) (-x + -y) := by
  apply (areOpposite_add (view x) (view y)).isOpposite (view_add x y)
  rw [view_add, view_neg, view_neg]

/-- Swapping the operands of a difference gives the opposite. -/
theorem isOpposite_sub (x y : Float) : IsOpposite (x - y) (y - x) := by
  have h := isOpposite_add x (-y)
  rwa [Binary64.neg_neg, Binary64.add_comm (-x) y, ← sub_eq, ← sub_eq] at h

theorem isOpposite_ofInt (n : ℤ) : IsOpposite (ofInt n) (ofInt (-n)) :=
  (areOpposite_normalize n 0).isOpposite (view_ofInt n) (view_ofInt (-n))

theorem IsOpposite.sign? {x y : Float} (h : IsOpposite x y) : sign? y = (sign? x).map (- ·) := by
  rcases h with rfl | ⟨hx, hy⟩
  · exact sign?_neg x
  · rw [hx, hy]
    rfl

/-! ### Adding zero -/

/-- Adding a zero of either sign changes nothing but zeros. -/
theorem add_of_sign?_zero {z x : Float} (hz : sign? z = some 0) (hx : sign? x ≠ some 0) :
    z + x = x := by
  obtain ⟨s, hs, -⟩ | ⟨-, h⟩ | ⟨m, e, k, -, h⟩ := shape_of_nonneg hz (by decide)
  · apply view_injective
    rw [view_add, hs]
    refine Eq.trans (congrArg capped ?_) (capped_view x)
    rw [Binary64.sign?] at hx
    cases hv : view x with
    | zero t => rw [hv] at hx; exact absurd rfl hx
    | _ => rfl
  · cases h
  · cases h

end BranchDistance.Binary64
