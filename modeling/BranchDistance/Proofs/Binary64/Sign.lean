import BranchDistance.Proofs.Binary64.Rounding

/-!
# The sign of a binary64 number

Distances only ask where a number lies with respect to zero.  `sign?` says so, and it is computed
from the signs of the operands through every operation that the distances use.

* A sum of numbers that are not negative is positive as soon as one of them is, since no positive
  number is rounded to zero (`sign?_add`).
* The nearest number to an integer has the sign of the integer (`sign?_ofInt`).
-/

namespace BranchDistance.Binary64

open Float.Model (Format UnpackedFloat)
open Float.Model.UnpackedFloat

/-! ### Predicates and operations on parts -/

theorem lt_iff_compare {x y : Float} : x < y ↔ (view x).compare (view y) = some .lt :=
  decide_eq_true_iff.trans beq_iff_eq

theorem le_iff_compare {x y : Float} :
    x ≤ y ↔ ((view x).compare (view y)).any (·.isLE) = true :=
  decide_eq_true_iff

theorem beq_iff_compare {x y : Float} :
    (x == y) = true ↔ (view x).compare (view y) = some .eq := by
  change ((view x).compare (view y) == some .eq) = true ↔ _
  exact beq_iff_eq

theorem isNaN_eq (x : Float) : x.isNaN = (view x).isNaN := rfl

theorem isInf_eq (x : Float) : x.isInf = (view x).isInf := rfl

theorem isFinite_eq (x : Float) : x.isFinite = (view x).isFinite := rfl

@[simp] theorem view_zero : view 0 = .zero .positive := rfl

@[simp] theorem view_infinity : view infinity = .infinity .positive := rfl

@[simp] theorem view_largest :
    view largest = .finite .positive (2 ^ 53 - 1) 971 (by decide) := rfl

theorem isCanonical_neg {u : UnpackedFloat} (h : IsCanonical u) : IsCanonical u.neg := by
  cases u with
  | finite s m e h0 => exact h
  | _ => trivial

theorem isCanonical_abs {u : UnpackedFloat} (h : IsCanonical u) : IsCanonical u.abs := by
  cases u with
  | finite s m e h0 => exact h
  | _ => trivial

theorem isCanonical_add {u v : UnpackedFloat} (hu : IsCanonical u) (hv : IsCanonical v) :
    IsCanonical (add .binary64 u v) := by
  cases u <;> cases v
  all_goals first
    | trivial
    | exact hu
    | exact hv
    | (simp only [add]; split <;> trivial)
    | exact isCanonical_normalize _ (le_min hu.2.1 hv.2.1) _

theorem capped_neg (u : UnpackedFloat) : capped u.neg = (capped u).neg := by
  cases u with
  | finite s m e h0 => simp only [UnpackedFloat.neg, capped]; split <;> rfl
  | _ => rfl

theorem capped_abs (u : UnpackedFloat) : capped u.abs = (capped u).abs := by
  cases u with
  | finite s m e h0 => simp only [UnpackedFloat.abs, capped]; split <;> rfl
  | _ => rfl

theorem view_neg (x : Float) : view (-x) = (view x).neg := by
  have h : view (-x) = capped (view x).neg :=
    view_ofModel_pack (isCanonical_neg (isCanonical_view x))
  rw [h, capped_neg, capped_view]

theorem isFinite_neg (x : Float) : (-x).isFinite = x.isFinite := by
  rw [isFinite_eq, isFinite_eq, view_neg]
  cases view x <;> rfl

theorem view_abs (x : Float) : view x.abs = (view x).abs := by
  have h : view x.abs = capped (view x).abs :=
    view_ofModel_pack (isCanonical_abs (isCanonical_view x))
  rw [h, capped_abs, capped_view]

theorem view_add (x y : Float) : view (x + y) = capped (add .binary64 (view x) (view y)) :=
  view_ofModel_pack (isCanonical_add (isCanonical_view x) (isCanonical_view y))

theorem view_ofInt (n : ℤ) :
    view (ofInt n) = capped (UnpackedFloat.normalize .binary64 n 0 .positive) :=
  view_ofModel_pack (isCanonical_normalize n (by omega) .positive)

/-! ### Signs -/

/-- The sign as a number. -/
def ofSign : Sign → SignType
  | .negative => -1
  | .positive => 1

/-- The sign of the parts of a number. -/
def signOf? : UnpackedFloat → Option SignType
  | .notANumber => none
  | .infinity s => some (ofSign s)
  | .zero _ => some 0
  | .finite s _ _ _ => some (ofSign s)

/-- The sign of a number; there is none for what is not a number. -/
def sign? (x : Float) : Option SignType := signOf? (view x)

@[simp] theorem signOf?_capped (u : UnpackedFloat) : signOf? (capped u) = signOf? u := by
  cases u with
  | finite s m e h0 => simp only [capped]; split <;> rfl
  | _ => rfl

theorem isNaN_iff_sign? {x : Float} : x.isNaN = true ↔ sign? x = none := by
  rw [isNaN_eq, sign?]
  cases view x <;> simp [signOf?, UnpackedFloat.isNaN]

theorem isFinite_of_isNaN {x : Float} (h : x.isNaN = true) : ¬ x.isFinite = true := by
  rw [isNaN_eq] at h
  rw [isFinite_eq]
  cases hx : view x <;> rw [hx] at h <;> cases h
  decide

theorem pos_iff_sign? {x : Float} : 0 < x ↔ sign? x = some 1 := by
  rw [lt_iff_compare, view_zero, sign?]
  rcases view x with s | _ | s | ⟨s, m, e, h⟩
  all_goals try cases s
  all_goals simp [signOf?, ofSign, UnpackedFloat.compare]

/-- Parts are compared with zero as their sign is. -/
theorem compare_zero (u : UnpackedFloat) :
    u.compare (.zero .positive) = (signOf? u).map fun a => compare a 0 := by
  rcases u with s | _ | s | ⟨s, m, e, h⟩
  all_goals try cases s
  all_goals rfl

theorem neg_iff_sign? {x : Float} : x < 0 ↔ sign? x = some (-1) := by
  rw [lt_iff_compare, view_zero, compare_zero, ← sign?]
  rcases sign? x with _ | a
  · simp
  · cases a <;> decide

theorem beq_zero_iff_sign? {x : Float} : (x == 0) = true ↔ sign? x = some 0 := by
  rw [beq_iff_compare, view_zero, compare_zero, ← sign?]
  rcases sign? x with _ | a
  · simp
  · cases a <;> decide

theorem nonpos_iff_sign? {x : Float} : x ≤ 0 ↔ sign? x = some 0 ∨ sign? x = some (-1) := by
  rw [le_iff_compare, view_zero, compare_zero, ← sign?]
  rcases sign? x with _ | a
  · simp
  · cases a <;> decide

/-! ### Signs of results -/

theorem sign?_neg (x : Float) : sign? (-x) = (sign? x).map (- ·) := by
  rw [sign?, view_neg, sign?]
  rcases view x with s | _ | s | ⟨s, m, e, h⟩
  all_goals try cases s
  all_goals rfl

theorem sign?_abs (x : Float) : sign? x.abs = (sign? x).map fun a => a * a := by
  rw [sign?, view_abs, sign?]
  rcases view x with s | _ | s | ⟨s, m, e, h⟩
  all_goals try cases s
  all_goals rfl

theorem signOf?_normalize (n : ℤ) {e : ℤ} (he : -1074 ≤ e) (z : Sign) :
    signOf? (UnpackedFloat.normalize .binary64 n e z) = some (SignType.sign n) := by
  rcases lt_trichotomy n 0 with hn | rfl | hn
  · obtain ⟨m', e', h, hr, -⟩ := normalize_neg hn he z
    rw [hr, sign_neg hn]
    rfl
  · rw [normalize_zero, sign_zero]
    rfl
  · obtain ⟨m', e', h, hr, -⟩ := normalize_pos hn he z
    rw [hr, sign_pos hn]
    rfl

/-- The nearest number to an integer has the sign of the integer. -/
@[simp] theorem sign?_ofInt (n : ℤ) : sign? (ofInt n) = some (SignType.sign n) := by
  rw [sign?, view_ofInt, signOf?_capped, signOf?_normalize n (by omega)]

theorem signOf?_add_finite {m₁ m₂ : ℕ} {e₁ e₂ : ℤ} (h₁ : 0 < m₁) (h₂ : 0 < m₂)
    (he₁ : -1074 ≤ e₁) (he₂ : -1074 ≤ e₂) :
    signOf? (add .binary64 (.finite .positive m₁ e₁ h₁) (.finite .positive m₂ e₂ h₂)) =
      some 1 := by
  have hpos : (0 : ℤ) < (m₁ * 2 ^ (e₁ - min e₁ e₂).toNat : ℕ) +
      (m₂ * 2 ^ (e₂ - min e₁ e₂).toNat : ℕ) := by
    positivity
  simp only [add, decreaseExponent, Sign.apply, Nat.shiftLeft_eq]
  rw [signOf?_normalize _ (le_min he₁ he₂), sign_pos hpos]

/-- Parts that are not negative are a zero, the positive infinity or positive finite parts. -/
theorem shape_of_nonneg {u : UnpackedFloat} {a : SignType} (h : signOf? u = some a) (ha : 0 ≤ a) :
    (∃ s, u = .zero s ∧ a = 0) ∨ (u = .infinity .positive ∧ a = 1) ∨
      ∃ m e k, u = .finite .positive m e k ∧ a = 1 := by
  rcases u with s | _ | s | ⟨s, m, e, k⟩
  · cases s <;> cases h
    · exact absurd ha (by decide)
    · exact .inr (.inl ⟨rfl, rfl⟩)
  · cases h
  · cases h
    exact .inl ⟨s, rfl, rfl⟩
  · cases s <;> cases h
    · exact absurd ha (by decide)
    · exact .inr (.inr ⟨m, e, k, rfl, rfl⟩)

theorem view_of_sign?_zero {x : Float} (h : sign? x = some 0) : ∃ s, view x = .zero s := by
  rcases shape_of_nonneg h le_rfl with ⟨s, hs, -⟩ | ⟨-, h0⟩ | ⟨m, e, k, -, h0⟩
  · exact ⟨s, hs⟩
  · cases h0
  · cases h0

theorem shape_of_pos {x : Float} (h : sign? x = some 1) :
    view x = .infinity .positive ∨ ∃ m e k, view x = .finite .positive m e k := by
  rcases shape_of_nonneg h (by decide) with ⟨s, -, h0⟩ | ⟨hv, -⟩ | ⟨m, e, k, hv, -⟩
  · cases h0
  · exact .inl hv
  · exact .inr ⟨m, e, k, hv⟩

theorem signOf?_add {u v : UnpackedFloat} {a b : SignType} (hu : IsCanonical u)
    (hv : IsCanonical v) (ha : signOf? u = some a) (hb : signOf? v = some b) (ha0 : 0 ≤ a)
    (hb0 : 0 ≤ b) : signOf? (add .binary64 u v) = some (max a b) := by
  rcases shape_of_nonneg ha ha0 with ⟨s, rfl, rfl⟩ | ⟨rfl, rfl⟩ | ⟨m, e, h, rfl, rfl⟩ <;>
    rcases shape_of_nonneg hb hb0 with ⟨t, rfl, rfl⟩ | ⟨rfl, rfl⟩ | ⟨n, f, k, rfl, rfl⟩
  case inr.inr.inr.inr => exact signOf?_add_finite h k hu.2.1 hv.2.1
  case inl.inl => cases s <;> cases t <;> rfl
  all_goals rfl

/-- A sum of numbers that are not negative is positive as soon as one of them is. -/
theorem sign?_add {x y : Float} {a b : SignType} (hx : sign? x = some a) (hy : sign? y = some b)
    (ha : 0 ≤ a) (hb : 0 ≤ b) : sign? (x + y) = some (max a b) := by
  rw [sign?, view_add, signOf?_capped]
  exact signOf?_add (isCanonical_view x) (isCanonical_view y) hx hy ha hb

/-- Zero added to a positive number leaves it as it is. -/
theorem zero_add_of_pos {x : Float} (h : sign? x = some 1) : 0 + x = x := by
  apply view_injective
  rw [view_add, view_zero]
  refine Eq.trans (congrArg capped ?_) (capped_view x)
  rcases shape_of_pos h with hv | ⟨m, e, k, hv⟩
  · rw [hv]
    rfl
  · rw [hv]
    rfl

/-! ### The greatest finite number -/

theorem eq_infinity_iff {x : Float} : x = infinity ↔ view x = .infinity .positive :=
  ⟨fun h => by rw [h, view_infinity], fun h => view_injective (by rw [h, view_infinity])⟩

theorem largest_lt_iff {x : Float} : largest < x ↔ x = infinity := by
  rw [eq_infinity_iff, lt_iff_compare, view_largest]
  cases hx : view x with
  | finite s m e h =>
    obtain ⟨hm, -, he, -⟩ := view_finite hx
    cases s with
    | negative => simp [UnpackedFloat.compare]
    | positive =>
      have hle : ¬ ((compare 971 e).then (compare (2 ^ 53 - 1) m)) = .lt := by
        rw [Ordering.then_eq_lt, Int.compare_eq_lt, Int.compare_eq_eq, Nat.compare_eq_lt]
        omega
      simpa [UnpackedFloat.compare] using hle
  | infinity s => cases s <;> simp [UnpackedFloat.compare]
  | zero s => simp [UnpackedFloat.compare]
  | notANumber => simp [UnpackedFloat.compare]

theorem isInf_iff_of_pos {x : Float} (h : sign? x = some 1) : x.isInf = true ↔ x = infinity := by
  rw [eq_infinity_iff, isInf_eq]
  rcases shape_of_pos h with hv | ⟨m, e, k, hv⟩
  · simp [hv, UnpackedFloat.isInf]
  · simp [hv, UnpackedFloat.isInf]

/-- Of the positive numbers only infinity is not finite. -/
theorem isFinite_iff_of_pos {x : Float} (h : sign? x = some 1) :
    x.isFinite = true ↔ x ≠ infinity := by
  rw [Ne, eq_infinity_iff, isFinite_eq]
  rcases shape_of_pos h with hv | ⟨m, e, k, hv⟩
  · simp [hv, UnpackedFloat.isFinite]
  · simp [hv, UnpackedFloat.isFinite]

end BranchDistance.Binary64
