import BranchDistance.Proofs.Binary64.Magnitude

/-!
# Integers as binary64 numbers

An integer of up to 64 binary digits becomes the nearest one that has at most 53 of them before its
zeros at the end, `rounded`.  What is computed from there is exact until the next rounding:

* rounding sees only the exact value of a result, not the form in which it was written
  (`normalize_congr`);
* the difference of two integers is the number of the difference of the rounded ones
  (`ofInt_sub_ofInt`);
* a written integer is read as the same number that the integer becomes (`ofScientific_eq_ofInt`).
-/

namespace BranchDistance.Binary64

open Float.Model (Format UnpackedFloat)
open Float.Model.UnpackedFloat

/-! ### Exact values -/

/-- Canonical parts are known from their sign and their magnitude. -/
theorem finite_eq_of_units {s : Sign} {m n : ℕ} {e f : ℤ} {h : 0 < m} {k : 0 < n}
    (hu : IsCanonical (.finite s m e h)) (hv : IsCanonical (.finite s n f k))
    (heq : units (.finite s m e h) = units (.finite s n f k)) :
    UnpackedFloat.finite s m e h = .finite s n f k := by
  have hlt := mt (units_lt_iff_of_finite hu hv).2 heq.not_lt
  have hgt := mt (units_lt_iff_of_finite hv hu).2 heq.symm.not_lt
  obtain rfl : e = f := by omega
  obtain rfl : m = n := by omega
  rfl

/-- A number other than zero is rounded to canonical parts of its own sign. -/
theorem exists_normalize {n e : ℤ} (hn : n ≠ 0) (he : -1074 ≤ e) (z : Sign) :
    ∃ m f k, UnpackedFloat.normalize .binary64 n e z =
        .finite (if n < 0 then .negative else .positive) m f k ∧
      IsCanonical (.finite (if n < 0 then .negative else .positive) m f k) := by
  rcases lt_or_gt_of_ne hn with hneg | hpos
  · obtain ⟨m, f, k, hr, hc, -⟩ := normalize_neg hneg he z
    rw [if_pos hneg]
    exact ⟨m, f, k, hr, hc⟩
  · obtain ⟨m, f, k, hr, hc, -⟩ := normalize_pos hpos he z
    rw [if_neg hpos.not_gt]
    exact ⟨m, f, k, hr, hc⟩

/-- Rounding sees only the exact value. -/
theorem normalize_congr {n n' e e' : ℤ} (he : -1074 ≤ e) (he' : -1074 ≤ e')
    (h : n * 2 ^ (e + 1074).toNat = n' * 2 ^ (e' + 1074).toNat) (z : Sign) :
    UnpackedFloat.normalize .binary64 n e z = UnpackedFloat.normalize .binary64 n' e' z := by
  have hsign : SignType.sign n = SignType.sign n' := by
    have hpos (k : ℕ) : SignType.sign ((2 : ℤ) ^ k) = 1 := sign_pos (by positivity)
    have h := congrArg SignType.sign h
    rwa [sign_mul, sign_mul, hpos, hpos, mul_one, mul_one] at h
  have hunits : units (UnpackedFloat.normalize .binary64 n e z) =
      units (UnpackedFloat.normalize .binary64 n' e' z) := by
    have h := congrArg Int.natAbs h
    rw [Int.natAbs_mul, Int.natAbs_mul, Int.natAbs_pow, Int.natAbs_pow] at h
    rw [units_normalize he, units_normalize he']
    exact congrArg nearest h
  rcases eq_or_ne n 0 with rfl | hn
  · obtain rfl : n' = 0 := by rwa [sign_zero, eq_comm, sign_eq_zero_iff] at hsign
    rfl
  · have hn' : n' ≠ 0 := by rwa [← sign_ne_zero, ← hsign, sign_ne_zero]
    have hneg : n < 0 ↔ n' < 0 := by rw [← sign_eq_neg_one_iff, hsign, sign_eq_neg_one_iff]
    obtain ⟨m, f, k, hr, hc⟩ := exists_normalize hn he z
    obtain ⟨m', f', k', hr', hc'⟩ := exists_normalize hn' he' z
    simp only [hneg] at hr hc
    rw [hr, hr'] at hunits ⊢
    exact finite_eq_of_units hc hc' hunits

/-- Canonical parts are not rounded. -/
theorem normalize_apply {s : Sign} {m : ℕ} {e : ℤ} {h : 0 < m}
    (hc : IsCanonical (.finite s m e h)) (z : Sign) :
    UnpackedFloat.normalize .binary64 (s.apply m) e z = .finite s m e h := by
  have hunits : units (UnpackedFloat.normalize .binary64 (s.apply m) e z) =
      units (.finite s m e h) := by
    have habs : (s.apply (m : ℤ)).natAbs = m := by cases s <;> simp [Sign.apply]
    rw [units_normalize hc.2.1, habs, ← units_finite s m e h, nearest_units hc]
  have hn : s.apply (m : ℤ) ≠ 0 := by cases s <;> simp [Sign.apply, h.ne']
  have hsign : (if s.apply (m : ℤ) < 0 then Sign.negative else .positive) = s := by
    cases s with
    | negative => exact if_pos (by simpa [Sign.apply] using h)
    | positive => exact if_neg (by simp [Sign.apply])
  obtain ⟨m', f', k', hr, hc'⟩ := exists_normalize hn hc.2.1 z
  rw [hsign] at hr hc'
  rw [hr] at hunits ⊢
  exact finite_eq_of_units hc' hc hunits

/-- The value of finite parts, in units of the least positive number. -/
def value : UnpackedFloat → ℤ
  | .finite s m e _ => s.apply m * 2 ^ (e + 1074).toNat
  | _ => 0

theorem value_neg (u : UnpackedFloat) : value u.neg = -value u := by
  cases u with
  | finite s m e h => cases s <;> simp [value, UnpackedFloat.neg, Sign.apply]
  | _ => rfl

theorem apply_mul (s : Sign) (a b : ℤ) : s.apply (a * b) = s.apply a * b := by
  cases s <;> simp [Sign.apply]

/-- Canonical parts are the rounded value. -/
theorem eq_normalize_value {s : Sign} {m : ℕ} {e : ℤ} {h : 0 < m}
    (hc : IsCanonical (.finite s m e h)) :
    UnpackedFloat.finite s m e h =
      UnpackedFloat.normalize .binary64 (value (.finite s m e h)) (-1074) .positive := by
  refine (normalize_apply hc .positive).symm.trans (normalize_congr hc.2.1 le_rfl ?_ _)
  simp [value]

/-- A sum of finite parts is the rounded exact one, unless both are zero. -/
theorem add_eq_normalize {u v : UnpackedFloat} (hu : IsCanonical u) (hv : IsCanonical v)
    (hfu : u.isFinite = true) (hfv : v.isFinite = true)
    (h : signOf? u ≠ some 0 ∨ signOf? v ≠ some 0) :
    add .binary64 u v =
      UnpackedFloat.normalize .binary64 (value u + value v) (-1074) .positive := by
  cases u with
  | notANumber => cases hfu
  | infinity s => cases hfu
  | zero s =>
    cases v with
    | notANumber => cases hfv
    | infinity t => cases hfv
    | zero t => simp [signOf?] at h
    | finite t n f k =>
      rw [show value (.zero s) = 0 from rfl, Int.zero_add]
      exact eq_normalize_value hv
  | finite s m e h =>
    cases v with
    | notANumber => cases hfv
    | infinity t => cases hfv
    | zero t =>
      rw [show value (.zero t) = 0 from rfl, Int.add_zero]
      exact eq_normalize_value hu
    | finite t n f k =>
      have hshift (a : ℤ) {g : ℤ} (hg : min e f ≤ g) :
          a * 2 ^ (g - min e f).toNat * 2 ^ (min e f + 1074).toNat =
            a * 2 ^ (g + 1074).toNat := by
        have hu := hu.2.1
        have hv := hv.2.1
        rw [mul_assoc, ← pow_add]
        congr 2
        omega
      simp only [add, decreaseExponent, Nat.shiftLeft_eq]
      refine normalize_congr (le_min hu.2.1 hv.2.1) le_rfl ?_ _
      push_cast
      rw [apply_mul, apply_mul, Int.add_mul, hshift _ (min_le_left e f),
        hshift _ (min_le_right e f)]
      simp [value]

/-! ### Rounded integers -/

theorem nearest_of_le {n : ℕ} (h : n ≤ 2 ^ 53) : nearest n = n := by
  simpa using nearest_mul_two_pow h 0

/-- Zeros at the end stay zeros. -/
theorem nearest_scale (n k : ℕ) : nearest (n * 2 ^ k) = nearest n * 2 ^ k := by
  by_cases hn : n ≤ 2 ^ 53
  · rw [nearest_mul_two_pow hn, nearest_of_le hn]
  · have hlog : 53 ≤ n.log2 := (Nat.le_log2 (by omega)).2 (by omega)
    have hsum : n.log2 + k - 52 = k + (n.log2 - 52) := by omega
    rw [nearest, log2_mul_two_pow (by omega), hsum, roundedQuotient_mul_two_pow, nearest, pow_add]
    ring

/-- The integer whose number an integer gets: the nearest one with no more than 53 binary digits
before its zeros at the end, and of two equally near ones the one with the even significand. -/
def rounded (n : ℤ) : ℤ := n.sign * nearest n.natAbs

/-- Up to 53 digits nothing is rounded. -/
theorem rounded_of_le {n : ℤ} (h : n.natAbs ≤ 2 ^ 53) : rounded n = n := by
  rw [rounded, nearest_of_le h, Int.sign_mul_natAbs]

theorem ofInt_neg {n : ℤ} (h : n ≠ 0) : ofInt (-n) = -ofInt n := by
  refine (isOpposite_ofInt n).resolve_right fun hzero => h ?_
  simpa using hzero.1

theorem value_eq_sign_mul {u : UnpackedFloat} {a : SignType} (h : signOf? u = some a)
    (hfin : u.isFinite = true) : value u = a * units u := by
  cases u with
  | notANumber => cases h
  | infinity s => cases hfin
  | zero s => simp [value, units]
  | finite s m e k =>
    cases s <;> cases h <;> simp [value, units, Sign.apply, ofSign]

/-- The number nearest to an integer is the rounded integer. -/
theorem value_ofInt {n : ℤ} (h : n.natAbs ≤ 2 ^ 64) :
    value (view (ofInt n)) = rounded n * 2 ^ onePlace := by
  have hunits : units (view (ofInt n)) = nearest n.natAbs * 2 ^ onePlace := by
    rw [units_ofInt, min_eq_left (nearest_lt_limit h).le, nearest_scale]
  rw [value_eq_sign_mul (sign?_ofInt n) (isFinite_ofInt h), hunits, ← Int.sign_eq_sign, rounded]
  push_cast
  ring

/-- The difference of two integers is the number of the difference of the rounded ones. -/
theorem ofInt_sub_ofInt {m n : ℤ} (hm : m.natAbs ≤ 2 ^ 64) (hn : n.natAbs ≤ 2 ^ 64) :
    ofInt m - ofInt n = ofInt (rounded m - rounded n) := by
  by_cases h : m = 0 ∧ n = 0
  · obtain ⟨rfl, rfl⟩ := h
    decide
  · have hsigns : signOf? (view (ofInt m)) ≠ some 0 ∨ signOf? (view (ofInt n)).neg ≠ some 0 := by
      have hneg : ∀ a : SignType, -a = 0 ↔ a = 0 := by decide
      rw [← view_neg, ← sign?, ← sign?, sign?_neg, sign?_ofInt, sign?_ofInt]
      simp only [Option.map_some, ne_eq, Option.some.injEq, hneg, sign_eq_zero_iff]
      omega
    have hplace : ((0 : ℤ) + 1074).toNat = onePlace := by rw [onePlace_eq]; rfl
    have hcanonical : IsCanonical (view (ofInt n)).neg := isCanonical_neg (isCanonical_view _)
    have hfinite : (view (ofInt n)).neg.isFinite = true := by
      have h := isFinite_ofInt hn
      rw [isFinite_eq] at h
      revert h
      cases view (ofInt n) <;> exact id
    apply view_injective
    rw [sub_eq, view_add, view_neg,
      add_eq_normalize (isCanonical_view _) hcanonical (isFinite_ofInt hm) hfinite hsigns,
      value_neg, value_ofInt hm, value_ofInt hn, view_ofInt]
    congr 1
    refine normalize_congr le_rfl (by omega) ?_ _
    rw [hplace]
    simp
    ring

/-! ### Written integers -/

/-- A significand of at least 53 digits need not be lengthened before it is rounded. -/
theorem roundWithAccuracy_eq_normalize {n : ℕ} (h : 2 ^ 52 ≤ n) (e : ℤ) :
    roundWithAccuracy .binary64 .positive n e .exact =
      UnpackedFloat.normalize .binary64 n e .positive := by
  have hlog : 52 ≤ n.log2 := (Nat.le_log2 (by omega)).2 h
  have hshift : (e - max (n.log2 + e - 52) (-1074)).toNat = 0 := by omega
  have hcmp : compare (n : ℤ) 0 = .gt := Int.compare_eq_gt.2 (by omega)
  simp only [UnpackedFloat.normalize, hcmp, Int.toNat_natCast, UnpackedFloat.round,
    targetExponent_binary64, decreaseExponent, hshift, Nat.shiftLeft_zero, Int.ofNat_zero,
    Int.sub_zero]

/-- So an integer may be written with at least 53 digits before it is rounded. -/
theorem roundWithAccuracy_of_value {m n : ℕ} {e : ℤ} (hm : 2 ^ 52 ≤ m) (he : -1074 ≤ e)
    (hvalue : m * 2 ^ (e + 1074).toNat = n * 2 ^ onePlace) :
    roundWithAccuracy .binary64 .positive m e .exact =
      UnpackedFloat.normalize .binary64 n 0 .positive := by
  have hplace : ((0 : ℤ) + 1074).toNat = onePlace := by rw [onePlace_eq]; rfl
  rw [roundWithAccuracy_eq_normalize hm]
  refine normalize_congr he (by omega) ?_ _
  rw [hplace]
  exact_mod_cast hvalue

/-- A positive integer of up to 53 digits is stored with exactly 53, as far as its exponent
allows. -/
theorem view_ofInt_of_lt {n : ℕ} (h0 : 0 < n) (h : n < 2 ^ 53) :
    ∃ m e k, view (ofInt n) = .finite .positive m e k ∧ 2 ^ 52 ≤ m ∧ -1022 ≤ e ∧
      m * 2 ^ (e + 1074).toNat = n * 2 ^ onePlace := by
  have hsign : sign? (ofInt n) = some 1 := by
    rw [sign?_ofInt, sign_pos (by omega)]
  have hvalue : value (view (ofInt n)) = n * 2 ^ onePlace := by
    rw [value_ofInt (by omega), rounded_of_le (by omega)]
  rcases shape_of_pos hsign with hv | ⟨m, e, k, hv⟩
  · have hfinite : (ofInt n).isFinite = true := isFinite_ofInt (by omega)
    rw [isFinite_eq, hv] at hfinite
    cases hfinite
  · obtain ⟨hm, he, -, hnormal⟩ := view_finite hv
    have hunits : m * 2 ^ (e + 1074).toNat = n * 2 ^ onePlace := by
      rw [hv] at hvalue
      simp only [value, Sign.apply] at hvalue
      exact_mod_cast hvalue
    have hlarge : -1022 ≤ e := by
      by_contra hsmall
      have hpow : 2 ^ 53 * 2 ^ (e + 1074).toNat ≤ 2 ^ onePlace := by
        rw [← pow_add]
        exact Nat.pow_le_pow_right (by omega) (by rw [onePlace_eq]; omega)
      have hlt : m * 2 ^ (e + 1074).toNat < 2 ^ 53 * 2 ^ (e + 1074).toNat :=
        Nat.mul_lt_mul_of_pos_right hm (Nat.two_pow_pos _)
      have hle : 2 ^ onePlace ≤ n * 2 ^ onePlace := Nat.le_mul_of_pos_left _ h0
      omega
    exact ⟨m, e, k, hv, by omega, hlarge, hunits⟩

theorem mul_positive {m n : ℕ} {e f : ℤ} (h : 0 < m) (k : 0 < n) :
    mul .binary64 (.finite .positive m e h) (.finite .positive n f k) =
      roundWithAccuracy .binary64 .positive (m * n) (e + f) .exact := rfl

theorem toFloat_toUInt64 {n : ℕ} (h : n < 2 ^ 64) : n.toUInt64.toFloat = ofInt n := by
  have hn : n.toUInt64.toNat = n := by
    rw [Nat.toUInt64_eq, UInt64.toNat_ofNat', Nat.mod_eq_of_lt h]
  change Float.ofModel (.pack (UnpackedFloat.ofNat .binary64 n.toUInt64.toNat)) = _
  rw [hn]
  rfl

theorem ofInt_mul_one {n : ℕ} (h0 : 0 < n) (h : n < 2 ^ 53) :
    ofInt n * Float.ofBits 4607182418800017408 = ofInt n := by
  obtain ⟨m, e, k, hv, hm, he, hunits⟩ := view_ofInt_of_lt h0 h
  have hone : view (Float.ofBits 4607182418800017408) =
      .finite .positive (2 ^ 52) (-52) (by decide) := rfl
  have hsplit : (e + 1074).toNat = 52 + (e + -52 + 1074).toNat := by omega
  change Float.ofModel (.pack (mul .binary64 (view (ofInt n))
    (view (Float.ofBits 4607182418800017408)))) = _
  rw [hv, hone, mul_positive, roundWithAccuracy_of_value (by omega) (by omega)]
  · rfl
  · rw [← hunits, hsplit, pow_add, Nat.mul_assoc]

/-- Reading lengthens a significand by 53 digits. -/
theorem ofScientific_eq_normalize {n : ℕ} (h0 : 0 < n) :
    UnpackedFloat.ofScientific .binary64 n 0 =
      UnpackedFloat.normalize .binary64 n 0 .positive := by
  have hbits : (0 : ℤ) < 2 ^ Format.binary64.exponentBits := by positivity
  have hlow : ¬ (0 : ℤ) < -(2 ^ Format.binary64.exponentBits + n.log2) := by omega
  have hhigh : ¬ (0 : ℤ) > 2 ^ Format.binary64.exponentBits := by omega
  have hdigits : Format.binary64.mantissaBits = 53 := rfl
  rw [UnpackedFloat.ofScientific, dif_neg h0.ne', if_neg hhigh, if_neg hlow, if_pos le_rfl,
    mul_positive, roundWithAccuracy_of_value]
  · rw [hdigits, Nat.shiftLeft_eq, Int.toNat_zero]
    omega
  · rw [hdigits]
    omega
  · have hsplit : onePlace = 53 + (-(53 : ℕ) + 0 + 1074 : ℤ).toNat := by rw [onePlace_eq]; rfl
    rw [hdigits, hsplit, pow_add, Nat.shiftLeft_eq, Int.toNat_zero, pow_zero, Nat.mul_one,
      Nat.mul_assoc]

/-- An integer without an exponent is read as its number.  Up to 53 digits it is multiplied by one,
and beyond it is rounded at once. -/
theorem ofScientific_eq_ofInt {n : ℕ} (h0 : 0 < n) : Float.ofScientific n false 0 = ofInt n := by
  unfold Float.ofScientific
  by_cases h : n < 2 ^ 53
  · rw [dif_pos ⟨h, by omega⟩]
    change n.toUInt64.toFloat * Float.ofBits 4607182418800017408 = _
    rw [toFloat_toUInt64 (by omega), ofInt_mul_one h0 h]
  · rw [dif_neg (by omega)]
    change Float.ofModel (.pack (UnpackedFloat.ofScientific .binary64 n 0)) = _
    rw [ofScientific_eq_normalize h0]
    rfl

end BranchDistance.Binary64
