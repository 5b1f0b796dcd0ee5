import BranchDistance.Proofs.Binary64.View

/-!
# Rounding to binary64

Exact results are rounded to 53 binary digits.  A significand above the least exponent never loses
all of its digits, so rounding makes no zero out of a positive number: the sign and the
positivity of an exact result survive (`round_finite`, `normalize_pos`, `normalize_neg`).
-/

namespace BranchDistance.Binary64

open Float.Model (Format UnpackedFloat totalExponent)
open Float.Model.UnpackedFloat

/-! ### Shifting significands -/

theorem mantissa_shiftRight (em : ExtendedMantissa) (n : ℕ) :
    (em >>> n).mantissa = em.mantissa / 2 ^ n := by
  change (n.repeat ExtendedMantissa.shiftRightOne em).mantissa = _
  induction n with
  | zero => simp [Nat.repeat]
  | succ n ih =>
    rw [Nat.repeat, ExtendedMantissa.shiftRightOne, ih, Nat.div_div_eq_div_mul, ← Nat.pow_succ]

theorem le_roundedMantissa (em : ExtendedMantissa) : em.mantissa ≤ em.roundedMantissa := by
  obtain ⟨m, r, t⟩ := em
  cases r <;> cases t <;>
    simp [ExtendedMantissa.roundedMantissa, ExtendedMantissa.accuracy, Accuracy.roundToNearestEven]

theorem roundedMantissa_le (em : ExtendedMantissa) : em.roundedMantissa ≤ em.mantissa + 1 := by
  obtain ⟨m, r, t⟩ := em
  cases r <;> cases t <;>
    simp [ExtendedMantissa.roundedMantissa, ExtendedMantissa.accuracy, Accuracy.roundToNearestEven]
  omega

theorem targetExponent_binary64 (m : ℕ) (e : ℤ) :
    Format.binary64.targetExponent (totalExponent m e) = max (m.log2 + e - 52) (-1074) := by
  show max ((m.log2 + 1 + e : ℤ) - (53 : ℕ)) (-1074) = _
  congr 1
  omega

/-- A significand whose exponent is on target is not shifted. -/
theorem shiftToTargetExponent_of_le {m : ℕ} {e : ℤ}
    (h : max (m.log2 + e - 52) (-1074) ≤ e) :
    shiftToTargetExponent .binary64 m e .exact = (⟨m, false, false⟩, e) := by
  have hshift : (max (m.log2 + e - 52) (-1074) - e).toNat = 0 := by omega
  rw [shiftToTargetExponent, targetExponent_binary64, shiftToExponent, hshift]
  simp [HShiftRight.hShiftRight, Nat.repeat, ExtendedMantissa.ofMantissaAndAccuracy]

/-- A significand of 54 digits is shifted by one place. -/
theorem shiftToTargetExponent_two_pow {e : ℤ} (he : -1074 ≤ e) :
    shiftToTargetExponent .binary64 (2 ^ 53) e .exact = (⟨2 ^ 52, false, false⟩, e + 1) := by
  have hshift : (max (((2 ^ 53 : ℕ).log2 : ℤ) + e - 52) (-1074) - e).toNat = 1 := by
    rw [Nat.log2_two_pow]
    omega
  rw [shiftToTargetExponent, targetExponent_binary64, shiftToExponent, hshift]
  rfl

/-- A significand of at most `2 ^ 53` is on target, but for the digit that rounding up may add; that
one is followed by zeros only. -/
theorem exists_shiftToTargetExponent {m : ℕ} {e : ℤ} (he : -1074 ≤ e) (hm : m ≤ 2 ^ 53) :
    ∃ b f, shiftToTargetExponent .binary64 m e .exact = (b, f) ∧
      (b.mantissa = m ∧ f = e ∧ m < 2 ^ 53 ∨ b.mantissa = 2 ^ 52 ∧ f = e + 1 ∧ m = 2 ^ 53) := by
  rcases Nat.lt_or_eq_of_le hm with hlt | rfl
  · have hlog : m.log2 ≤ 52 := by
      rcases Nat.eq_zero_or_pos m with rfl | h0
      · decide
      · have := (Nat.log2_lt h0.ne').2 hlt
        omega
    exact ⟨_, _, shiftToTargetExponent_of_le (by omega), .inl ⟨rfl, rfl, hlt⟩⟩
  · exact ⟨_, _, shiftToTargetExponent_two_pow he, .inr ⟨rfl, rfl, rfl⟩⟩

/-! ### Rounding -/

theorem roundWithAccuracy_of_shift (s : Sign) {m : ℕ} {e e₁ e₂ : ℤ} {a b : ExtendedMantissa}
    (ha : shiftToTargetExponent .binary64 m e .exact = (a, e₁))
    (hb : shiftToTargetExponent .binary64 a.roundedMantissa e₁ .exact = (b, e₂))
    (h0 : 0 < b.mantissa) :
    roundWithAccuracy .binary64 s m e .exact = .finite s b.mantissa e₂ h0 := by
  simp only [roundWithAccuracy, ha, hb]
  exact dif_neg h0.ne'

/-- A significand that is on target stays as it is. -/
theorem roundWithAccuracy_of_le (s : Sign) {m : ℕ} {e : ℤ} (h0 : 0 < m)
    (h : max (m.log2 + e - 52) (-1074) ≤ e) :
    roundWithAccuracy .binary64 s m e .exact = .finite s m e h0 :=
  roundWithAccuracy_of_shift s (shiftToTargetExponent_of_le h) (shiftToTargetExponent_of_le h) h0

/-- A significand of at least 53 digits keeps 53 of them. -/
theorem roundWithAccuracy_of_large (s : Sign) {m : ℕ} {e : ℤ} (hm : 2 ^ 52 ≤ m)
    (he : -1074 ≤ e) :
    ∃ m' e' h, roundWithAccuracy .binary64 s m e .exact = .finite s m' e' h ∧
      2 ^ 52 ≤ m' ∧ m' < 2 ^ 53 ∧ e ≤ e' ∧ e' ≤ m.log2 + e - 51 := by
  have hlog : 52 ≤ m.log2 := (Nat.le_log2 (by omega)).2 hm
  obtain ⟨k, hk⟩ : ∃ k, m.log2 = 52 + k := ⟨m.log2 - 52, by omega⟩
  have hshift : (max (m.log2 + e - 52) (-1074) - e).toNat = k := by omega
  have ha : shiftToTargetExponent .binary64 m e .exact =
      ((⟨m, false, false⟩ : ExtendedMantissa) >>> k, e + k) := by
    rw [shiftToTargetExponent, targetExponent_binary64, shiftToExponent, hshift]
    rfl
  have hq : ((⟨m, false, false⟩ : ExtendedMantissa) >>> k).mantissa = m / 2 ^ k :=
    mantissa_shiftRight _ k
  generalize ((⟨m, false, false⟩ : ExtendedMantissa) >>> k) = a at ha hq
  have hlow := le_roundedMantissa a
  have hhigh := roundedMantissa_le a
  have hfirst : 2 ^ 52 ≤ m / 2 ^ k := by
    rw [Nat.le_div_iff_mul_le (Nat.two_pow_pos k), ← Nat.pow_add, ← hk]
    exact Nat.log2_self_le (by omega)
  have hlast : m / 2 ^ k < 2 ^ 53 := by
    rw [Nat.div_lt_iff_lt_mul (Nat.two_pow_pos k), ← Nat.pow_add,
      show 53 + k = m.log2 + 1 by omega]
    exact Nat.lt_log2_self
  by_cases hr : a.roundedMantissa = 2 ^ 53
  · -- rounding up may give a digit more, which is zero
    have hb : shiftToTargetExponent .binary64 a.roundedMantissa (e + k) .exact =
        (⟨2 ^ 52, false, false⟩, e + k + 1) := by
      rw [hr]
      exact shiftToTargetExponent_two_pow (by omega)
    have hpos : 0 < 2 ^ 52 := by omega
    exact ⟨2 ^ 52, e + k + 1, hpos, roundWithAccuracy_of_shift s ha hb hpos, by omega, by omega,
      by omega, by omega⟩
  · have hlog' : a.roundedMantissa.log2 = 52 := log2_of_lt (by omega) (by omega)
    have hpos : 0 < a.roundedMantissa := by omega
    exact ⟨a.roundedMantissa, e + k, hpos,
      roundWithAccuracy_of_shift s ha (shiftToTargetExponent_of_le (by omega)) hpos,
      by omega, by omega, by omega, by omega⟩

theorem log2_mul_two_pow {m : ℕ} (h : 0 < m) (k : ℕ) : (m * 2 ^ k).log2 = m.log2 + k := by
  refine (Nat.log2_eq_iff (by positivity)).2 ⟨?_, ?_⟩
  · rw [Nat.pow_add]
    exact Nat.mul_le_mul_right _ (Nat.log2_self_le h.ne')
  · rw [show m.log2 + k + 1 = m.log2 + 1 + k by omega, Nat.pow_add]
    exact Nat.mul_lt_mul_of_pos_right Nat.lt_log2_self (Nat.two_pow_pos k)

/-- Rounding keeps the sign of a positive significand above the least exponent. -/
theorem round_finite (s : Sign) {m : ℕ} {e : ℤ} (hm : 0 < m) (he : -1074 ≤ e) :
    ∃ m' e' h, UnpackedFloat.round .binary64 s m e = .finite s m' e' h ∧
      IsCanonical (.finite s m' e' h) ∧ e' ≤ max (-1074) (m.log2 + e - 51) := by
  by_cases hlarge : 2 ^ 52 ≤ m
  · have hlog : 52 ≤ m.log2 := (Nat.le_log2 hm.ne').2 hlarge
    have hshift : (e - max (m.log2 + e - 52) (-1074)).toNat = 0 := by omega
    obtain ⟨m', e', h, hr, hlow, hhigh, he', he''⟩ := roundWithAccuracy_of_large s hlarge he
    refine ⟨m', e', h, ?_, ⟨hhigh, by omega, .inl hlow⟩, by omega⟩
    simp only [UnpackedFloat.round, targetExponent_binary64, decreaseExponent, hshift,
      Nat.shiftLeft_zero, Int.ofNat_zero, Int.sub_zero]
    exact hr
  · -- the significand is first brought to 53 digits, or to the least exponent
    have hlog : m.log2 < 52 := (Nat.log2_lt hm.ne').2 (by omega)
    obtain ⟨k, hk⟩ : ∃ k, (e - max (m.log2 + e - 52) (-1074)).toNat = k := ⟨_, rfl⟩
    have hlog' : (m * 2 ^ k).log2 = m.log2 + k := log2_mul_two_pow hm k
    have hpos : 0 < m * 2 ^ k := by positivity
    have htarget : max ((m * 2 ^ k).log2 + (e - k) - 52) (-1074) ≤ e - k := by omega
    have hbelow : m * 2 ^ k < 2 ^ 53 := (Nat.log2_lt hpos.ne').1 (by omega)
    have hnormal : 2 ^ 52 ≤ m * 2 ^ k ∨ e - k = -1074 := by
      by_cases hleast : e - k = -1074
      · exact .inr hleast
      · exact .inl ((Nat.le_log2 hpos.ne').1 (by omega))
    refine ⟨m * 2 ^ k, e - k, hpos, ?_, ⟨hbelow, by omega, hnormal⟩, by omega⟩
    simp only [UnpackedFloat.round, targetExponent_binary64, decreaseExponent, hk,
      Nat.shiftLeft_eq]
    exact roundWithAccuracy_of_le s hpos htarget

/-! ### Signed results -/

theorem normalize_pos {n : ℤ} {e : ℤ} (hn : 0 < n) (he : -1074 ≤ e) (z : Sign) :
    ∃ m' e' h, UnpackedFloat.normalize .binary64 n e z = .finite .positive m' e' h ∧
      IsCanonical (.finite .positive m' e' h) ∧ e' ≤ max (-1074) (n.natAbs.log2 + e - 51) := by
  have hcmp : compare n 0 = .gt := Int.compare_eq_gt.2 hn
  have habs : n.toNat = n.natAbs := by omega
  simp only [UnpackedFloat.normalize, hcmp, habs]
  exact round_finite .positive (by omega) he

theorem normalize_neg {n : ℤ} {e : ℤ} (hn : n < 0) (he : -1074 ≤ e) (z : Sign) :
    ∃ m' e' h, UnpackedFloat.normalize .binary64 n e z = .finite .negative m' e' h ∧
      IsCanonical (.finite .negative m' e' h) ∧ e' ≤ max (-1074) (n.natAbs.log2 + e - 51) := by
  have hcmp : compare n 0 = .lt := Int.compare_eq_lt.2 hn
  have habs : (-n).toNat = n.natAbs := by omega
  simp only [UnpackedFloat.normalize, hcmp, habs]
  exact round_finite .negative (by omega) he

theorem normalize_zero (e : ℤ) (z : Sign) :
    UnpackedFloat.normalize .binary64 0 e z = .zero z := rfl

theorem isCanonical_normalize (n : ℤ) {e : ℤ} (he : -1074 ≤ e) (z : Sign) :
    IsCanonical (UnpackedFloat.normalize .binary64 n e z) := by
  rcases lt_trichotomy n 0 with hn | rfl | hn
  · obtain ⟨m', e', h, hr, hc, -⟩ := normalize_neg hn he z
    rwa [hr]
  · exact trivial
  · obtain ⟨m', e', h, hr, hc, -⟩ := normalize_pos hn he z
    rwa [hr]

end BranchDistance.Binary64
