import BranchDistance.Proofs.Binary64.Comparison

/-!
# Quotients of binary64 numbers

A quotient is computed to at least 53 digits, or to the least exponent, and its remainder tells how
the digits that are cut off are rounded (`div_finite`).  Rounding up never passes one if the exact
quotient does not, so a number divided by one that is not less lies between zero and one
(`div_mem_unit`).
-/

namespace BranchDistance.Binary64

open Float.Model (Format UnpackedFloat)
open Float.Model.UnpackedFloat

/-! ### Significands with a remainder -/

/-- The integral quotient with what the remainder tells of the digits after it. -/
def extendedQuotient (n d : ℕ) : ExtendedMantissa :=
  .ofMantissaAndAccuracy (n / d) (accuracyOfFraction (n % d) d)

theorem mantissa_ofMantissaAndAccuracy (q : ℕ) (acc : Accuracy) :
    (ExtendedMantissa.ofMantissaAndAccuracy q acc).mantissa = q := by
  rcases acc with _ | _ | _ | _ <;> rfl

theorem residue_ofMantissaAndAccuracy_le (q : ℕ) (acc : Accuracy) :
    residue (.ofMantissaAndAccuracy q acc) ≤ 4 * q + 3 := by
  rcases acc with _ | _ | _ | _ <;> simp [residue, ExtendedMantissa.ofMantissaAndAccuracy]

/-- The remainder is nothing where the quotient is greatest. -/
theorem residue_extendedQuotient_le {n d c : ℕ} (h : n ≤ c * d) :
    residue (extendedQuotient n d) ≤ 4 * c := by
  have hle : n / d ≤ c := Nat.div_le_of_le_mul (h.trans_eq (Nat.mul_comm _ _))
  rcases Nat.lt_or_eq_of_le hle with hlt | heq
  · have hround := residue_ofMantissaAndAccuracy_le (n / d) (accuracyOfFraction (n % d) d)
    unfold extendedQuotient
    omega
  · have hrem : n % d = 0 := by
      have hdiv := Nat.div_add_mod n d
      rw [heq, Nat.mul_comm] at hdiv
      omega
    rw [extendedQuotient, hrem, heq, accuracyOfFraction, if_pos rfl]
    exact le_rfl

theorem shiftToTargetExponent_eq (q : ℕ) (g : ℤ) (acc : Accuracy) {k : ℕ}
    (hk : (max (q.log2 + g - 52) (-1074) - g).toNat = k) :
    shiftToTargetExponent .binary64 q g acc =
      (ExtendedMantissa.ofMantissaAndAccuracy q acc >>> k, g + k) := by
  rw [shiftToTargetExponent, targetExponent_binary64, shiftToExponent, hk]

/-! ### Rounded significands -/

theorem isCanonical_of_shift (s : Sign) {m : ℕ} {e e₁ : ℤ} {acc : Accuracy} {a : ExtendedMantissa}
    (ha : shiftToTargetExponent .binary64 m e acc = (a, e₁)) (he : -1074 ≤ e₁)
    (hle : a.roundedMantissa ≤ 2 ^ 53) (hn : 2 ^ 52 ≤ a.roundedMantissa ∨ e₁ = -1074) :
    IsCanonical (roundWithAccuracy .binary64 s m e acc) := by
  obtain ⟨b, e₂, hb, hcases⟩ := exists_shiftToTargetExponent he hle
  simp only [roundWithAccuracy, ha, hb]
  split
  · trivial
  · show b.mantissa < 2 ^ 53 ∧ -1074 ≤ e₂ ∧ (2 ^ 52 ≤ b.mantissa ∨ e₂ = -1074)
    omega

theorem signOf?_roundWithAccuracy (s : Sign) (m : ℕ) (e : ℤ) (acc : Accuracy) :
    signOf? (roundWithAccuracy .binary64 s m e acc) = some 0 ∨
      signOf? (roundWithAccuracy .binary64 s m e acc) = some (ofSign s) := by
  simp only [roundWithAccuracy]
  split
  · exact .inl rfl
  · exact .inr rfl

/-! ### Quotients -/

/-- A dividend that is longer by 53 digits has a quotient of at least 53 digits. -/
theorem le_log2_div {m n j : ℕ} (hm : 0 < m) (hn : 0 < n) (h : n.log2 + 53 ≤ m.log2 + j) :
    52 ≤ (m * 2 ^ j / n).log2 := by
  have hlow : 2 ^ 52 ≤ m * 2 ^ j / n := by
    rw [Nat.le_div_iff_mul_le hn]
    calc 2 ^ 52 * n
        ≤ 2 ^ 52 * 2 ^ (n.log2 + 1) := Nat.mul_le_mul_left _ Nat.lt_log2_self.le
      _ = 2 ^ (n.log2 + 53) := by ring
      _ ≤ 2 ^ (m.log2 + j) := Nat.pow_le_pow_right (by omega) h
      _ = 2 ^ m.log2 * 2 ^ j := Nat.pow_add _ _ _
      _ ≤ m * 2 ^ j := Nat.mul_le_mul_right _ (Nat.log2_self_le hm.ne')
  exact (Nat.le_log2 (by omega)).2 hlow

section Finite

variable (s t : Sign) {m n : ℕ} {e f : ℤ} (hm : 0 < m) (hn : 0 < n)

/-- The first significand is lengthened until the quotient has at least 53 digits, unless its
exponent is the least one. -/
theorem div_finite : ∃ j : ℕ, (-1074 < e - f - j → n.log2 + 53 ≤ m.log2 + j) ∧
    div .binary64 (.finite s m e hm) (.finite t n f hn) =
      roundWithAccuracy .binary64 (s / t) (m * 2 ^ j / n) (e - f - j)
        (accuracyOfFraction (m * 2 ^ j % n) n) := by
  have htarget : Format.binary64.targetExponent
      (Float.Model.totalExponent m e - Float.Model.totalExponent n f) =
        max (m.log2 + e - (n.log2 + f) - 53) (-1074) := by
    show max ((m.log2 + 1 + e : ℤ) - (n.log2 + 1 + f) - (53 : ℕ)) (-1074) = _
    congr 1
    omega
  obtain ⟨j, hj⟩ : ∃ j : ℕ,
      (e - f - min (e - f) (max (m.log2 + e - (n.log2 + f) - 53) (-1074))).toNat = j := ⟨_, rfl⟩
  have hexp : min (e - f) (max (m.log2 + e - (n.log2 + f) - 53) (-1074)) = e - f - j := by omega
  refine ⟨j, by omega, ?_⟩
  simp only [div, divCore, htarget, hj, Nat.shiftLeft_eq]
  rw [hexp]

theorem isCanonical_div_finite :
    IsCanonical (div .binary64 (.finite s m e hm) (.finite t n f hn)) := by
  obtain ⟨j, hdigits, hdiv⟩ := div_finite s t hm hn (e := e) (f := f)
  obtain ⟨q, hq⟩ : ∃ q, m * 2 ^ j / n = q := ⟨_, rfl⟩
  obtain ⟨g, hg⟩ : ∃ g : ℤ, e - f - j = g := ⟨_, rfl⟩
  obtain ⟨k, hk⟩ : ∃ k : ℕ, (max (q.log2 + g - 52) (-1074) - g).toNat = k := ⟨_, rfl⟩
  have hlarge (h : -1074 < g) : 52 ≤ q.log2 := hq ▸ le_log2_div hm hn (hdigits (hg ▸ h))
  rw [hdiv, hq, hg]
  refine isCanonical_of_shift _ (shiftToTargetExponent_eq q g _ hk) (by omega)
    (roundedMantissa_shiftRight_le _ ?_) ?_
  · rw [mantissa_ofMantissaAndAccuracy]
    omega
  · by_cases hleast : g + k = -1074
    · exact .inr hleast
    · have hlog : 52 + k ≤ q.log2 := by
        by_cases h : -1074 < g
        · have := hlarge h
          omega
        · omega
      have hpos : 0 < q := by
        rcases Nat.eq_zero_or_pos q with rfl | hpos
        · rw [Nat.log2_zero] at hlog
          omega
        · exact hpos
      refine .inl (le_roundedMantissa_shiftRight _ ?_ ?_)
      · rwa [mantissa_ofMantissaAndAccuracy]
      · rwa [mantissa_ofMantissaAndAccuracy]

/-- Rounding does not pass one. -/
theorem units_div_finite_le (hu : IsCanonical (.finite s m e hm))
    (hv : IsCanonical (.finite t n f hn))
    (h : units (.finite s m e hm) ≤ units (.finite t n f hn)) :
    units (div .binary64 (.finite s m e hm) (.finite t n f hn)) ≤ 2 ^ onePlace := by
  have hef : e ≤ f := by
    by_contra hlt
    exact (units_lt_of_exponent hv hu (by omega)).not_ge h
  obtain ⟨i, rfl⟩ : ∃ i : ℕ, f = e + i := ⟨(f - e).toNat, by omega⟩
  obtain ⟨j, -, hdiv⟩ := div_finite s t hm hn (e := e) (f := e + i)
  -- the quotient is at most `2 ^ (i + j)`, which is one at the exponent of the quotient
  have hquotient : m * 2 ^ j ≤ 2 ^ (i + j) * n := by
    have hexp : (e + i + 1074).toNat = i + (e + 1074).toNat := by
      have := hu.2.1
      omega
    rw [units_finite, units_finite, hexp, Nat.pow_add, ← Nat.mul_assoc] at h
    calc m * 2 ^ j
        ≤ n * 2 ^ i * 2 ^ j :=
          Nat.mul_le_mul_right _ (Nat.le_of_mul_le_mul_right h (Nat.two_pow_pos _))
      _ = 2 ^ (i + j) * n := by ring
  have hresidue := residue_extendedQuotient_le hquotient
  obtain ⟨q, hq⟩ : ∃ q, m * 2 ^ j / n = q := ⟨_, rfl⟩
  obtain ⟨k, hk⟩ : ∃ k : ℕ,
      (max (q.log2 + (e - (e + i) - j) - 52) (-1074) - (e - (e + i) - j)).toNat = k := ⟨_, rfl⟩
  have hlog : q.log2 ≤ i + j := by
    have hle : q ≤ 2 ^ (i + j) := hq ▸ Nat.div_le_of_le_mul (hquotient.trans_eq (Nat.mul_comm _ _))
    exact (log2_le_log2 hle).trans_eq Nat.log2_two_pow
  have hkle : k ≤ i + j := by omega
  rw [extendedQuotient, hq] at hresidue
  rw [hdiv, hq, units_of_shift _ (shiftToTargetExponent_eq q _ _ hk) (by omega)
    (roundedMantissa_shiftRight_le _ (by rw [mantissa_ofMantissaAndAccuracy]; omega))]
  have hround : (ExtendedMantissa.ofMantissaAndAccuracy q (accuracyOfFraction (m * 2 ^ j % n) n) >>>
      k).roundedMantissa ≤ 2 ^ (i + j - k) := by
    have hone : roundedQuotient (2 ^ (i + j)) k = 2 ^ (i + j - k) := by
      rw [show 2 ^ (i + j) = 2 ^ (i + j - k) * 2 ^ k by rw [← Nat.pow_add]; congr 1; omega]
      exact roundedQuotient_mul_two_pow _ k 0
    rw [← hone]
    exact roundedMantissa_mono (residue_shiftRight_mono hresidue k)
  calc _ ≤ 2 ^ (i + j - k) * 2 ^ (e - (e + i) - j + k + 1074).toNat :=
        Nat.mul_le_mul_right _ hround
    _ = 2 ^ onePlace := by
        rw [← Nat.pow_add, onePlace_eq]
        congr 1
        omega

end Finite

theorem isCanonical_div {u v : UnpackedFloat} : IsCanonical (div .binary64 u v) := by
  cases u <;> cases v
  case finite.finite s m e hm t n f hn => exact isCanonical_div_finite s t hm hn
  all_goals trivial

theorem view_div (x y : Float) : view (x / y) = capped (div .binary64 (view x) (view y)) :=
  view_ofModel_pack isCanonical_div

theorem signOf?_div_finite (s t : Sign) {m n : ℕ} {e f : ℤ} (hm : 0 < m) (hn : 0 < n) :
    signOf? (div .binary64 (.finite s m e hm) (.finite t n f hn)) = some 0 ∨
      signOf? (div .binary64 (.finite s m e hm) (.finite t n f hn)) = some (ofSign (s / t)) := by
  obtain ⟨j, -, hdiv⟩ := div_finite s t hm hn (e := e) (f := f)
  rw [hdiv]
  exact signOf?_roundWithAccuracy _ _ _ _

theorem units_one : units (view 1) = 2 ^ onePlace := by
  show units (view (ofInt (1 : ℕ))) = _
  rw [units_ofInt_of_le (by omega), Nat.one_mul]

section Unit

variable {x y : Float} {a : SignType} (hx : sign? x = some a) (ha : 0 ≤ a) (hy : sign? y = some 1)
  (hfinite : y.isFinite = true) (h : units (view x) ≤ units (view y))

include hx ha hy hfinite h

theorem units_div_le : ∃ b, signOf? (div .binary64 (view x) (view y)) = some b ∧ 0 ≤ b ∧
    units (div .binary64 (view x) (view y)) ≤ 2 ^ onePlace := by
  have hlt := units_lt_limit hfinite
  obtain hw | ⟨n, f, k, hw⟩ := shape_of_pos hy
  · rw [hw] at hlt
    exact absurd hlt (lt_irrefl _)
  · obtain ⟨s, hz, -⟩ | ⟨hz, -⟩ | ⟨m, e, i, hz, -⟩ := shape_of_nonneg hx ha
    · exact ⟨0, by rw [hz, hw]; rfl, le_rfl, by rw [hz, hw]; exact Nat.zero_le _⟩
    · rw [hz] at h
      exact absurd hlt h.not_gt
    · have hu := isCanonical_view x
      have hv := isCanonical_view y
      rw [hz] at hu h ⊢
      rw [hw] at hv h ⊢
      have hle := units_div_finite_le .positive .positive i k hu hv h
      rcases signOf?_div_finite .positive .positive i k with hs | hs
      · exact ⟨0, hs, le_rfl, hle⟩
      · exact ⟨1, hs, by decide, hle⟩

/-- A number that is not negative, divided by one that is positive and not less, lies between zero
and one. -/
theorem div_mem_unit : 0 ≤ x / y ∧ x / y ≤ 1 := by
  obtain ⟨b, hb, hb0, hle⟩ := units_div_le hx ha hy hfinite h
  have hsign : sign? (x / y) = some b := by rw [sign?, view_div, signOf?_capped, hb]
  have hunits : units (view (x / y)) ≤ units (view 1) := by
    rw [view_div, units_capped isCanonical_div, units_one]
    exact (min_le_left _ _).trans hle
  have hzero : sign? 0 = some 0 := rfl
  have hone : sign? 1 = some 1 := rfl
  rw [le_iff_units hzero hsign le_rfl hb0, le_iff_units hsign hone hb0 (by decide)]
  exact ⟨Nat.zero_le _, hunits⟩

end Unit

end BranchDistance.Binary64
