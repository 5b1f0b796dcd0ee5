import BranchDistance.Proofs.Binary64.Symmetry

/-!
# The magnitude of a binary64 number

Every finite number is a whole multiple of the least positive one, `2 ^ -1074`.  In this unit exact
sums are sums of natural numbers, and rounding is a function on natural numbers that does not see in
which form a sum was written.

* `units` is the magnitude of parts in this unit, infinity standing at the first power of two that
  is too large;
* `nearest` rounds a natural number to 53 binary digits.  It is monotone (`nearest_mono`) and leaves
  what has no more than 53 digits as it is (`nearest_mul_two_pow`);
* the magnitude of a sum, and that of the nearest number to an integer, is the rounded exact one
  (`units_add`, `units_ofInt`);
* numbers that are not negative are ordered by their magnitudes (`lt_iff_units`).
-/

namespace BranchDistance.Binary64

open Float.Model (Format UnpackedFloat)
open Float.Model.UnpackedFloat

/-! ### Rounded quotients -/

/-- The quotient of a natural number by a power of two, rounded to the nearest integer; of two
equally near integers to the even one. -/
def roundedQuotient (n k : ℕ) : ℕ :=
  ((⟨n, false, false⟩ : ExtendedMantissa) >>> k).roundedMantissa

/-- A shifted significand with the two digits that rounding looks at, as one number. -/
def residue (em : ExtendedMantissa) : ℕ :=
  4 * em.mantissa + 2 * em.roundBit.toNat + em.stickyBit.toNat

theorem residue_shiftRightOne_mono {a b : ExtendedMantissa} (h : residue a ≤ residue b) :
    residue a.shiftRightOne ≤ residue b.shiftRightOne := by
  obtain ⟨m, r, t⟩ := a
  obtain ⟨n, s, u⟩ := b
  have hdigit (k : ℕ) : (k % 2 != 0).toNat = k % 2 := by
    rcases Nat.mod_two_eq_zero_or_one k with hk | hk <;> simp [hk]
  simp only [residue, ExtendedMantissa.shiftRightOne, hdigit] at h ⊢
  cases r <;> cases t <;> cases s <;> cases u <;> simp at h ⊢ <;> omega

theorem shiftRight_succ (em : ExtendedMantissa) (k : ℕ) :
    em >>> (k + 1) = (em >>> k).shiftRightOne := rfl

theorem residue_shiftRight_mono {a b : ExtendedMantissa} (h : residue a ≤ residue b) (k : ℕ) :
    residue (a >>> k) ≤ residue (b >>> k) := by
  induction k with
  | zero => exact h
  | succ k ih => exact residue_shiftRightOne_mono ih

theorem roundedMantissa_mono {a b : ExtendedMantissa} (h : residue a ≤ residue b) :
    a.roundedMantissa ≤ b.roundedMantissa := by
  obtain ⟨m, r, t⟩ := a
  obtain ⟨n, s, u⟩ := b
  simp only [residue] at h
  cases r <;> cases t <;> cases s <;> cases u <;>
    simp [ExtendedMantissa.roundedMantissa, ExtendedMantissa.accuracy,
      Accuracy.roundToNearestEven] at h ⊢ <;> omega

theorem roundedQuotient_mono {n n' : ℕ} (h : n ≤ n') (k : ℕ) :
    roundedQuotient n k ≤ roundedQuotient n' k := by
  apply roundedMantissa_mono (residue_shiftRight_mono _ k)
  simp only [residue]
  omega

/-- Zeros at the end of a significand may be shifted out. -/
theorem mul_two_pow_shiftRight (n j : ℕ) :
    (⟨n * 2 ^ j, false, false⟩ : ExtendedMantissa) >>> j = ⟨n, false, false⟩ := by
  induction j generalizing n with
  | zero => simp [HShiftRight.hShiftRight, Nat.repeat]
  | succ j ih =>
    rw [shiftRight_succ, show n * 2 ^ (j + 1) = n * 2 * 2 ^ j by ring, ih (n * 2)]
    simp [ExtendedMantissa.shiftRightOne]

theorem shiftRight_add (em : ExtendedMantissa) (j k : ℕ) : em >>> (j + k) = em >>> j >>> k := by
  induction k with
  | zero => rfl
  | succ k ih => rw [← Nat.add_assoc, shiftRight_succ, ih, shiftRight_succ]

theorem roundedQuotient_mul_two_pow (n j k : ℕ) :
    roundedQuotient (n * 2 ^ j) (j + k) = roundedQuotient n k := by
  unfold roundedQuotient
  rw [shiftRight_add, mul_two_pow_shiftRight]

theorem roundedQuotient_zero (n : ℕ) : roundedQuotient n 0 = n := rfl

/-! ### Rounding to 53 digits -/

/-- The nearest natural number with no more than 53 binary digits before its zeros at the end. -/
def nearest (n : ℕ) : ℕ := roundedQuotient n (n.log2 - 52) * 2 ^ (n.log2 - 52)

theorem log2_le_log2 {m n : ℕ} (h : m ≤ n) : m.log2 ≤ n.log2 := by
  rcases Nat.eq_zero_or_pos m with rfl | hm
  · simp
  · exact (Nat.le_log2 (by omega)).2 ((Nat.log2_self_le hm.ne').trans h)

/-- A significand shifted to 53 digits is rounded to no more than `2 ^ 53`. -/
theorem roundedMantissa_shiftRight_le (em : ExtendedMantissa) {k : ℕ}
    (h : em.mantissa.log2 ≤ 52 + k) : (em >>> k).roundedMantissa ≤ 2 ^ 53 := by
  have hn : em.mantissa < 2 ^ 53 * 2 ^ k := by
    rw [← Nat.pow_add]
    exact Nat.lt_log2_self.trans_le (Nat.pow_le_pow_right (by omega) (by omega))
  have hq : em.mantissa / 2 ^ k < 2 ^ 53 := (Nat.div_lt_iff_lt_mul (Nat.two_pow_pos k)).2 hn
  have hround := roundedMantissa_le (em >>> k)
  rw [mantissa_shiftRight] at hround
  omega

theorem le_roundedMantissa_shiftRight (em : ExtendedMantissa) {k : ℕ} (hn : 0 < em.mantissa)
    (h : 52 + k ≤ em.mantissa.log2) : 2 ^ 52 ≤ (em >>> k).roundedMantissa := by
  refine le_trans ?_ (le_roundedMantissa _)
  rw [mantissa_shiftRight, Nat.le_div_iff_mul_le (Nat.two_pow_pos k), ← Nat.pow_add]
  exact (Nat.pow_le_pow_right (by omega) h).trans (Nat.log2_self_le hn.ne')

theorem roundedQuotient_log2_le (n : ℕ) {k : ℕ} (h : n.log2 ≤ 52 + k) :
    roundedQuotient n k ≤ 2 ^ 53 :=
  roundedMantissa_shiftRight_le ⟨n, false, false⟩ h

theorem le_roundedQuotient_log2 {n k : ℕ} (hn : 0 < n) (h : 52 + k ≤ n.log2) :
    2 ^ 52 ≤ roundedQuotient n k :=
  le_roundedMantissa_shiftRight ⟨n, false, false⟩ hn h

/-- Rounding is monotone, also where the number of digits grows. -/
theorem nearest_mono {m n : ℕ} (h : m ≤ n) : nearest m ≤ nearest n := by
  obtain ⟨j, hj⟩ : ∃ j, m.log2 - 52 = j := ⟨_, rfl⟩
  obtain ⟨k, hk⟩ : ∃ k, n.log2 - 52 = k := ⟨_, rfl⟩
  have hlog := log2_le_log2 h
  rw [nearest, nearest, hj, hk]
  rcases Nat.eq_or_lt_of_le (show j ≤ k by omega) with rfl | hlt
  · exact Nat.mul_le_mul_right _ (roundedQuotient_mono h j)
  · -- a power of two lies between the two results
    have hn : 0 < n := by
      rcases Nat.eq_zero_or_pos n with rfl | hn
      · simp at hk
        omega
      · exact hn
    calc roundedQuotient m j * 2 ^ j
        ≤ 2 ^ 53 * 2 ^ j := Nat.mul_le_mul_right _ (roundedQuotient_log2_le m (by omega))
      _ = 2 ^ 52 * 2 ^ (j + 1) := by ring
      _ ≤ 2 ^ 52 * 2 ^ k := Nat.mul_le_mul_left _ (Nat.pow_le_pow_right (by omega) hlt)
      _ ≤ roundedQuotient n k * 2 ^ k :=
        Nat.mul_le_mul_right _ (le_roundedQuotient_log2 hn (by omega))

/-- A number of no more than 53 digits is not rounded, whatever zeros follow. -/
theorem nearest_mul_two_pow {n : ℕ} (h : n ≤ 2 ^ 53) (k : ℕ) : nearest (n * 2 ^ k) = n * 2 ^ k := by
  have hbelow {n : ℕ} (h : n < 2 ^ 53) (k : ℕ) : nearest (n * 2 ^ k) = n * 2 ^ k := by
    rcases Nat.eq_zero_or_pos n with rfl | hn
    · simp [nearest, roundedQuotient_zero]
    · have hlog : n.log2 ≤ 52 := by
        have := (Nat.log2_lt hn.ne').2 h
        omega
      obtain ⟨j, hj⟩ : ∃ j, (n * 2 ^ k).log2 - 52 = j := ⟨_, rfl⟩
      have hjk : j ≤ k := by
        rw [log2_mul_two_pow hn] at hj
        omega
      have hsplit : n * 2 ^ k = n * 2 ^ (k - j) * 2 ^ j := by
        rw [Nat.mul_assoc, ← Nat.pow_add, Nat.sub_add_cancel hjk]
      rw [nearest, hj, hsplit]
      congr 1
      exact roundedQuotient_mul_two_pow _ j 0
  rcases Nat.lt_or_eq_of_le h with h | rfl
  · exact hbelow h k
  · have := hbelow (n := 2 ^ 52) (by omega) (k + 1)
    rwa [show 2 ^ 52 * 2 ^ (k + 1) = 2 ^ 53 * 2 ^ k by ring] at this

/-! ### Magnitudes -/

-- The two places are irreducible, so that no proof computes powers of two of this size.

/-- The place of the digit one, counted from the unit. -/
@[irreducible] def onePlace : ℕ := 1074

/-- The place of the last digit of the greatest finite number. -/
@[irreducible] def topPlace : ℕ := 2045

theorem onePlace_eq : onePlace = 1074 := by rw [onePlace]

theorem topPlace_eq : topPlace = 2045 := by rw [topPlace]

/-- The magnitude of infinity, in units of the least positive number. -/
def limit : ℕ := 2 ^ 53 * 2 ^ topPlace

/-- The magnitude of parts, in units of the least positive number. -/
def units : UnpackedFloat → ℕ
  | .notANumber => 0
  | .infinity _ => limit
  | .zero _ => 0
  | .finite _ m e _ => m * 2 ^ (e + 1074).toNat

theorem units_zero (s : Sign) : units (.zero s) = 0 := rfl

theorem units_infinity (s : Sign) : units (.infinity s) = limit := rfl

theorem units_finite (s : Sign) (m : ℕ) (e : ℤ) (h : 0 < m) :
    units (.finite s m e h) = m * 2 ^ (e + 1074).toNat := rfl

theorem units_neg (u : UnpackedFloat) : units u.neg = units u := by cases u <;> rfl

theorem units_abs (u : UnpackedFloat) : units u.abs = units u := by cases u <;> rfl

theorem two_pow_le_top {e : ℤ} (he : e ≤ 971) : 2 ^ (e + 1074).toNat ≤ 2 ^ topPlace :=
  Nat.pow_le_pow_right (by omega) (by rw [topPlace_eq]; omega)

/-- A number whose exponent is too large has at least the magnitude of infinity. -/
theorem units_capped {u : UnpackedFloat} (h : IsCanonical u) :
    units (capped u) = min (units u) limit := by
  cases u with
  | notANumber => exact (Nat.zero_min _).symm
  | infinity s => exact (min_self _).symm
  | zero s => exact (Nat.zero_min _).symm
  | finite s m e h0 =>
    obtain ⟨hm, he, hn⟩ := h
    rw [capped, units_finite]
    split
    · have hpow : 2 ^ (topPlace + 1) ≤ 2 ^ (e + 1074).toNat :=
        Nat.pow_le_pow_right (by omega) (by rw [topPlace_eq]; omega)
      have hlarge : limit ≤ m * 2 ^ (e + 1074).toNat := by
        rw [show limit = 2 ^ 52 * 2 ^ (topPlace + 1) by rw [limit]; ring]
        exact Nat.mul_le_mul (by omega) hpow
      rw [min_eq_right hlarge]
      rfl
    · rw [units_finite, min_eq_left]
      exact Nat.mul_le_mul hm.le (two_pow_le_top (by omega))

theorem units_view_finite {x : Float} (h : x.isFinite = true) :
    units (view x) ≤ (2 ^ 53 - 1) * 2 ^ topPlace := by
  rw [isFinite_eq] at h
  cases hx : view x with
  | finite s m e h0 =>
    obtain ⟨hm, -, he, -⟩ := view_finite hx
    exact Nat.mul_le_mul (by omega) (two_pow_le_top he)
  | zero s => exact Nat.zero_le _
  | infinity s => rw [hx] at h; cases h
  | notANumber => rw [hx] at h; cases h

theorem units_lt_limit {x : Float} (h : x.isFinite = true) : units (view x) < limit :=
  (units_view_finite h).trans_lt (Nat.mul_lt_mul_of_pos_right (by omega) (Nat.two_pow_pos _))

theorem isFinite_of_units_lt {x : Float} {a : SignType} (h : sign? x = some a)
    (hlt : units (view x) < limit) : x.isFinite = true := by
  rw [isFinite_eq]
  rw [sign?] at h
  cases hx : view x with
  | notANumber => rw [hx] at h; cases h
  | infinity s => rw [hx] at hlt; exact absurd hlt (lt_irrefl _)
  | zero s => rfl
  | finite s m e h0 => rfl

/-! ### Magnitudes of rounded results -/

/-- A significand that has been shifted to its exponent is rounded there. -/
theorem units_of_shift (s : Sign) {m : ℕ} {e e₁ : ℤ} {acc : Accuracy} {a : ExtendedMantissa}
    (ha : shiftToTargetExponent .binary64 m e acc = (a, e₁)) (he : -1074 ≤ e₁)
    (hle : a.roundedMantissa ≤ 2 ^ 53) :
    units (roundWithAccuracy .binary64 s m e acc) =
      a.roundedMantissa * 2 ^ (e₁ + 1074).toNat := by
  obtain ⟨b, e₂, hb, hcases⟩ := exists_shiftToTargetExponent he hle
  have hunits : units (roundWithAccuracy .binary64 s m e acc) =
      b.mantissa * 2 ^ (e₂ + 1074).toNat := by
    simp only [roundWithAccuracy, ha, hb]
    split
    · next h0 => rw [h0, Nat.zero_mul]; rfl
    · rfl
  rcases hcases with ⟨hm, rfl, -⟩ | ⟨hm, rfl, hr⟩
  · rw [hunits, hm]
  · rw [hunits, hm, hr, show (e₁ + 1 + 1074).toNat = (e₁ + 1074).toNat + 1 by omega]
    ring

/-- Rounding shifts a significand to its exponent and rounds the quotient. -/
theorem units_roundWithAccuracy (s : Sign) {m k : ℕ} {e : ℤ} (he : -1074 ≤ e)
    (hk : max (m.log2 + e - 52) (-1074) = e + k) :
    units (roundWithAccuracy .binary64 s m e .exact) =
      roundedQuotient m k * 2 ^ (e + k + 1074).toNat := by
  have hshift : (max (m.log2 + e - 52) (-1074) - e).toNat = k := by omega
  have ha : shiftToTargetExponent .binary64 m e .exact =
      ((⟨m, false, false⟩ : ExtendedMantissa) >>> k, e + k) := by
    rw [shiftToTargetExponent, targetExponent_binary64, shiftToExponent, hshift]
    rfl
  exact units_of_shift s ha (by omega) (roundedQuotient_log2_le m (by omega))

/-- Rounding sees only the magnitude, not the form in which it is written. -/
theorem units_round (s : Sign) {m : ℕ} {e : ℤ} (hm : 0 < m) (he : -1074 ≤ e) :
    units (UnpackedFloat.round .binary64 s m e) = nearest (m * 2 ^ (e + 1074).toNat) := by
  obtain ⟨j, hj⟩ : ∃ j : ℕ, e = j - 1074 := ⟨(e + 1074).toNat, by omega⟩
  subst hj
  obtain ⟨i, hi⟩ : ∃ i, ((j - 1074 : ℤ) - max (m.log2 + (j - 1074 : ℤ) - 52) (-1074)).toNat = i :=
    ⟨_, rfl⟩
  -- of the two shifts, one to more digits and one to fewer, at most one is not trivial
  obtain ⟨k, hk⟩ : ∃ k : ℕ, (m * 2 ^ j).log2 - 52 = k := ⟨_, rfl⟩
  have hlog : (m * 2 ^ j).log2 = m.log2 + j := log2_mul_two_pow hm j
  have hlog' : (m * 2 ^ i).log2 = m.log2 + i := log2_mul_two_pow hm i
  obtain ⟨l, hl⟩ : ∃ l : ℕ, k = j - i + l := ⟨k - (j - i), by omega⟩
  have hij : i ≤ j := by omega
  have hexp : (j - 1074 + 1074 : ℤ).toNat = j := by omega
  have hsum : ((j - 1074 - i : ℤ) + l + 1074).toNat = k := by omega
  have hround : units (roundWithAccuracy .binary64 s (m * 2 ^ i) (j - 1074 - i) .exact) =
      roundedQuotient (m * 2 ^ i) l * 2 ^ k := by
    rw [units_roundWithAccuracy (k := l) s (by omega) (by omega), hsum]
  have hsplit : m * 2 ^ j = m * 2 ^ i * 2 ^ (j - i) := by
    rw [Nat.mul_assoc, ← Nat.pow_add, Nat.add_sub_cancel' hij]
  simp only [UnpackedFloat.round, targetExponent_binary64, decreaseExponent, hi, Nat.shiftLeft_eq]
  rw [hround, hexp, nearest, hk, hl, hsplit, roundedQuotient_mul_two_pow]

theorem units_normalize {n : ℤ} {e : ℤ} (he : -1074 ≤ e) (z : Sign) :
    units (UnpackedFloat.normalize .binary64 n e z) =
      nearest (n.natAbs * 2 ^ (e + 1074).toNat) := by
  rcases lt_trichotomy n 0 with hn | rfl | hn
  · have hcmp : compare n 0 = .lt := Int.compare_eq_lt.2 hn
    have habs : (-n).toNat = n.natAbs := by omega
    simp only [UnpackedFloat.normalize, hcmp, habs]
    exact units_round .negative (by omega) he
  · rw [normalize_zero, Int.natAbs_zero]
    rw [nearest_mul_two_pow (Nat.zero_le _), Nat.zero_mul]
    rfl
  · have hcmp : compare n 0 = .gt := Int.compare_eq_gt.2 hn
    have habs : n.toNat = n.natAbs := by omega
    simp only [UnpackedFloat.normalize, hcmp, habs]
    exact units_round .positive (by omega) he

/-- The magnitude of the nearest number to an integer. -/
theorem units_ofInt (n : ℤ) :
    units (view (ofInt n)) = min (nearest (n.natAbs * 2 ^ onePlace)) limit := by
  have hplace : ((0 : ℤ) + 1074).toNat = onePlace := by rw [onePlace_eq]; rfl
  rw [view_ofInt, units_capped (isCanonical_normalize n (by omega) .positive),
    units_normalize (by omega), hplace]

/-! ### Sums -/

theorem nearest_limit : nearest limit = limit := nearest_mul_two_pow le_rfl topPlace

/-- Canonical parts are not rounded. -/
theorem nearest_units {u : UnpackedFloat} (h : IsCanonical u) : nearest (units u) = units u := by
  cases u with
  | finite s m e h0 => exact nearest_mul_two_pow h.1.le _
  | infinity s => exact nearest_limit
  | zero s => rfl
  | notANumber => rfl

theorem units_zero_add (s : Sign) (v : UnpackedFloat) :
    units (add .binary64 (.zero s) v) = units v := by
  cases v with
  | zero t => cases s <;> cases t <;> rfl
  | _ => rfl

theorem units_finite_add {m n : ℕ} {e f : ℤ} (hm : 0 < m) (hn : 0 < n) (he : -1074 ≤ e)
    (hf : -1074 ≤ f) :
    units (add .binary64 (.finite .positive m e hm) (.finite .positive n f hn)) =
      nearest (m * 2 ^ (e + 1074).toNat + n * 2 ^ (f + 1074).toNat) := by
  have hshift (k : ℕ) {g : ℤ} (hg : min e f ≤ g) :
      k * 2 ^ (g + 1074).toNat =
        k * 2 ^ (g - min e f).toNat * 2 ^ (min e f + 1074).toNat := by
    rw [Nat.mul_assoc, ← Nat.pow_add]
    congr 2
    omega
  simp only [add, decreaseExponent, Sign.apply, Nat.shiftLeft_eq]
  rw [units_normalize (le_min he hf), hshift m (min_le_left e f), hshift n (min_le_right e f),
    ← Nat.add_mul]
  congr 2

theorem units_infinity_add {v : UnpackedFloat} {b : SignType} (hb : signOf? v = some b)
    (hb0 : 0 ≤ b) : units (add .binary64 (.infinity .positive) v) = limit := by
  rcases shape_of_nonneg hb hb0 with ⟨t, rfl, -⟩ | ⟨rfl, -⟩ | ⟨n, f, k, rfl, -⟩ <;> rfl

theorem units_add_parts {u v : UnpackedFloat} {a b : SignType} (hu : IsCanonical u)
    (hv : IsCanonical v) (ha : signOf? u = some a) (hb : signOf? v = some b) (ha0 : 0 ≤ a)
    (hb0 : 0 ≤ b) :
    min (units (add .binary64 u v)) limit = min (nearest (units u + units v)) limit := by
  -- infinity takes up what is added to it
  have hinfinity (n : ℕ) : min limit limit = min (nearest (limit + n)) limit := by
    have hle : limit ≤ nearest (limit + n) :=
      nearest_limit.symm.trans_le (nearest_mono (Nat.le_add_right _ _))
    rw [min_self, min_eq_right hle]
  rcases shape_of_nonneg ha ha0 with ⟨s, rfl, -⟩ | ⟨rfl, -⟩ | ⟨m, e, h, rfl, -⟩
  · rw [units_zero_add, units_zero, Nat.zero_add, nearest_units hv]
  · rw [units_infinity_add hb hb0, units_infinity]
    exact hinfinity _
  · rcases shape_of_nonneg hb hb0 with ⟨t, rfl, -⟩ | ⟨rfl, -⟩ | ⟨n, f, k, rfl, -⟩
    · rw [add_parts_comm, units_zero_add, units_zero, Nat.add_zero, nearest_units hu]
    · rw [add_parts_comm, units_infinity_add ha ha0, units_infinity, Nat.add_comm]
      exact hinfinity _
    · rw [units_finite_add h k hu.2.1 hv.2.1, units_finite, units_finite]

/-- The magnitude of a sum of numbers that are not negative is the rounded sum of the
magnitudes. -/
theorem units_add {x y : Float} {a b : SignType} (hx : sign? x = some a) (hy : sign? y = some b)
    (ha : 0 ≤ a) (hb : 0 ≤ b) :
    units (view (x + y)) = min (nearest (units (view x) + units (view y))) limit := by
  rw [view_add, units_capped (isCanonical_add (isCanonical_view x) (isCanonical_view y)),
    units_add_parts (isCanonical_view x) (isCanonical_view y) hx hy ha hb]

/-! ### Numbers that are far from the limit -/

/-- What is added to the greatest finite number is rounded off, up to a quarter of its last
digit. -/
theorem nearest_add_lt_limit {m n : ℕ} (hm : m ≤ (2 ^ 53 - 1) * 2 ^ topPlace)
    (hn : n ≤ 2 ^ 64 * 2 ^ onePlace) : nearest (m + n) < limit := by
  obtain ⟨j, hj, hplace⟩ : ∃ j, topPlace = j + 2 ∧ 64 + onePlace ≤ j :=
    ⟨2043, topPlace_eq, by rw [onePlace_eq]; omega⟩
  have hquarter : n ≤ 2 ^ j := by
    rw [← Nat.pow_add] at hn
    exact hn.trans (Nat.pow_le_pow_right (by omega) hplace)
  have hsum : m + n ≤ (4 * (2 ^ 53 - 1) + 1) * 2 ^ j := by
    rw [hj, Nat.pow_add] at hm
    omega
  have hlog : ((4 * (2 ^ 53 - 1) + 1) * 2 ^ j).log2 - 52 = j + 2 := by
    have hfirst : (4 * (2 ^ 53 - 1) + 1 : ℕ).log2 = 54 := by decide
    rw [log2_mul_two_pow (by omega), hfirst]
    omega
  have hround : nearest ((4 * (2 ^ 53 - 1) + 1) * 2 ^ j) = (2 ^ 53 - 1) * 2 ^ topPlace := by
    rw [nearest, hlog, hj, roundedQuotient_mul_two_pow]
    rfl
  calc nearest (m + n)
      ≤ (2 ^ 53 - 1) * 2 ^ topPlace := (nearest_mono hsum).trans_eq hround
    _ < limit := Nat.mul_lt_mul_of_pos_right (by omega) (Nat.two_pow_pos _)

theorem nearest_lt_limit {n : ℕ} (h : n ≤ 2 ^ 64) : nearest (n * 2 ^ onePlace) < limit := by
  rw [← Nat.zero_add (n * 2 ^ onePlace)]
  exact nearest_add_lt_limit (Nat.zero_le _) (Nat.mul_le_mul_right _ h)

theorem isFinite_ofInt {n : ℤ} (h : n.natAbs ≤ 2 ^ 64) : (ofInt n).isFinite = true := by
  apply isFinite_of_units_lt (sign?_ofInt n)
  rw [units_ofInt]
  exact (min_le_left _ _).trans_lt (nearest_lt_limit h)

/-! ### The order -/

theorem units_pos_of_finite {s : Sign} {m : ℕ} {e : ℤ} (h : 0 < m) :
    0 < units (.finite s m e h) := Nat.mul_pos h (Nat.two_pow_pos _)

/-- Of canonical parts the exponent decides first. -/
theorem units_lt_of_exponent {s t : Sign} {m n : ℕ} {e f : ℤ} {h : 0 < m} {k : 0 < n}
    (hu : IsCanonical (.finite s m e h)) (hv : IsCanonical (.finite t n f k)) (hef : e < f) :
    units (.finite s m e h) < units (.finite t n f k) := by
  obtain ⟨hm, he, -⟩ := hu
  obtain ⟨-, -, hn⟩ := hv
  rw [units_finite, units_finite]
  calc m * 2 ^ (e + 1074).toNat
      < 2 ^ 53 * 2 ^ (e + 1074).toNat := Nat.mul_lt_mul_of_pos_right hm (Nat.two_pow_pos _)
    _ = 2 ^ 52 * 2 ^ ((e + 1074).toNat + 1) := by ring
    _ ≤ n * 2 ^ (f + 1074).toNat :=
      Nat.mul_le_mul (by omega) (Nat.pow_le_pow_right (by omega) (by omega))

theorem units_lt_iff_of_finite {s t : Sign} {m n : ℕ} {e f : ℤ} {h : 0 < m} {k : 0 < n}
    (hu : IsCanonical (.finite s m e h)) (hv : IsCanonical (.finite t n f k)) :
    units (.finite s m e h) < units (.finite t n f k) ↔ e < f ∨ e = f ∧ m < n := by
  rcases lt_trichotomy e f with hef | rfl | hef
  · exact iff_of_true (units_lt_of_exponent hu hv hef) (.inl hef)
  · rw [units_finite, units_finite, Nat.mul_lt_mul_right (Nat.two_pow_pos _)]
    omega
  · exact iff_of_false (units_lt_of_exponent hv hu hef).le.not_gt (by omega)

/-- Numbers that are not negative are ordered by their magnitudes. -/
theorem lt_iff_units {x y : Float} {a b : SignType} (hx : sign? x = some a) (hy : sign? y = some b)
    (ha : 0 ≤ a) (hb : 0 ≤ b) : x < y ↔ units (view x) < units (view y) := by
  have hu := isCanonical_view x
  have hv := isCanonical_view y
  have hfinite {z : Float} {s : Sign} {m : ℕ} {e : ℤ} {h : 0 < m} (hz : view z = .finite s m e h) :
      units (.finite s m e h) < limit := by
    rw [← hz]
    exact units_lt_limit (by rw [isFinite_eq, hz]; rfl)
  have hlimit : 0 < limit := Nat.mul_pos (by omega) (Nat.two_pow_pos _)
  rw [lt_iff_compare]
  rcases shape_of_nonneg hx ha with ⟨s, hz, -⟩ | ⟨hz, -⟩ | ⟨m, e, h, hz, -⟩ <;>
    rcases shape_of_nonneg hy hb with ⟨t, hw, -⟩ | ⟨hw, -⟩ | ⟨n, f, k, hw, -⟩ <;>
    rw [hz, hw]
  · exact iff_of_false (by cases s <;> cases t <;> decide) (lt_irrefl _)
  · exact iff_of_true (by cases s <;> rfl) hlimit
  · exact iff_of_true (by cases s <;> rfl) (units_pos_of_finite k)
  · exact iff_of_false (by cases t <;> decide) (Nat.not_lt_zero _)
  · exact iff_of_false (by decide) (lt_irrefl _)
  · exact iff_of_false (fun h => by cases h) (hfinite hw).le.not_gt
  · exact iff_of_false (by cases t <;> exact fun h => by cases h) (Nat.not_lt_zero _)
  · exact iff_of_true rfl (hfinite hz)
  · rw [hz] at hu
    rw [hw] at hv
    rw [units_lt_iff_of_finite hu hv]
    simp only [UnpackedFloat.compare, Option.some.injEq, Ordering.then_eq_lt, Int.compare_eq_lt,
      Int.compare_eq_eq, Nat.compare_eq_lt]

end BranchDistance.Binary64
