import BranchDistance.Proofs.Binary64.Magnitude
import BranchDistance.Proofs.Distance

/-!
# Sums of distances

Sums are rounded and capped at the greatest finite distance.  Neither of the two turns the order
round, so a sum grows with its parts (`add_le_add`), though it need not grow strictly.

The natural numbers have distances of their own, `ofNat`.  They never fall (`ofNat_mono`), and up to
`2 ^ 53` nothing is rounded: they grow strictly and add up (`ofNat_lt_ofNat`, `ofNat_add_ofNat`).
-/

namespace BranchDistance.Distance

open Binary64

/-- The magnitude of a distance, in units of the least positive one. -/
def units (d : Distance) : ℕ := Binary64.units (view d.value)

theorem exists_sign?_value (d : Distance) : ∃ a, sign? d.value = some a ∧ 0 ≤ a := by
  rw [sign?_value]
  exact ⟨_, rfl, by split <;> decide⟩

theorem lt_iff_units {a b : Distance} : a < b ↔ a.units < b.units := by
  obtain ⟨s, hs, hs0⟩ := exists_sign?_value a
  obtain ⟨t, ht, ht0⟩ := exists_sign?_value b
  exact Binary64.lt_iff_units hs ht hs0 ht0

theorem le_iff_units {a b : Distance} : a ≤ b ↔ a.units ≤ b.units := by
  rw [← not_lt, lt_iff_units, not_lt]

theorem units_injective : Function.Injective units := fun _ _ h =>
  le_antisymm (le_iff_units.2 h.le) (le_iff_units.2 h.ge)

theorem units_zero : zero.units = 0 := rfl

theorem units_infinite : infinite.units = limit := rfl

theorem units_greatest : greatest.units = (2 ^ 53 - 1) * 2 ^ topPlace := by
  have htop : ((971 : ℤ) + 1074).toNat = topPlace := by rw [topPlace_eq]; rfl
  show Binary64.units (view largest) = _
  rw [view_largest, units_finite, htop]

theorem units_greatest_lt_limit : greatest.units < limit := by
  rw [← units_infinite, ← lt_iff_units]
  decide

/-- A number that is not negative keeps its magnitude, up to that of the greatest finite number. -/
theorem units_ofFloat {x : Float} {a : SignType} (h : sign? x = some a) (ha : 0 ≤ a) :
    (ofFloat x).units = Binary64.units (view x) ⊓ greatest.units := by
  rcases shape_of_nonneg h ha with ⟨s, hv, rfl⟩ | ⟨hv, rfl⟩ | ⟨m, e, k, hv, rfl⟩
  · rw [ofFloat_of_nonpos (nonpos_iff_sign?.2 (.inl h)), units_zero, hv, Binary64.units_zero,
      Nat.zero_min]
  · have hx : (ofFloat x).value = greatest.value := by
      rw [value_ofFloat_of_pos h, if_pos (eq_infinity_iff.2 hv)]
      rfl
    rw [ext hx, hv, units_infinity, min_eq_right units_greatest_lt_limit.le]
  · have hx : x ≠ infinity := by
      rw [Ne, eq_infinity_iff, hv]
      simp
    have hfinite := units_view_finite ((isFinite_iff_of_pos h).2 hx)
    rw [← units_greatest] at hfinite
    rw [units, value_ofFloat_of_pos h, if_neg hx, min_eq_left hfinite]

/-- The magnitude of a finite sum is the rounded sum of the magnitudes, capped. -/
theorem units_add {a b : Distance} (ha : a ≠ infinite) (hb : b ≠ infinite) :
    (a + b).units = nearest (a.units + b.units) ⊓ greatest.units := by
  obtain ⟨s, hs, hs0⟩ := exists_sign?_value a
  obtain ⟨t, ht, ht0⟩ := exists_sign?_value b
  have hsum := sign?_add hs ht hs0 ht0
  rw [add_of_finite ha hb, units_ofFloat hsum (le_max_of_le_left hs0),
    Binary64.units_add hs ht hs0 ht0, min_assoc, min_eq_right units_greatest_lt_limit.le]
  rfl

/-- A sum grows with its parts. -/
protected theorem add_le_add {a b c d : Distance} (h : a ≤ b) (h' : c ≤ d) : a + c ≤ b + d := by
  by_cases hinf : b = infinite ∨ d = infinite
  · rw [add_of_infinite hinf]
    exact le_infinite _
  · obtain ⟨hb, hd⟩ := not_or.1 hinf
    have ha : a ≠ infinite := fun ha => hb (top_le_iff.1 (ha.symm.trans_le h))
    have hc : c ≠ infinite := fun hc => hd (top_le_iff.1 (hc.symm.trans_le h'))
    rw [le_iff_units, units_add ha hc, units_add hb hd]
    exact min_le_min_right _
      (nearest_mono (Nat.add_le_add (le_iff_units.1 h) (le_iff_units.1 h')))

protected theorem add_comm (a b : Distance) : a + b = b + a := by
  by_cases h : a = infinite ∨ b = infinite
  · rw [add_of_infinite h, add_of_infinite h.symm]
  · rw [add_of_finite (not_or.1 h).1 (not_or.1 h).2, add_of_finite (not_or.1 h).2 (not_or.1 h).1,
      Binary64.add_comm]

@[simp] protected theorem add_zero (d : Distance) : d + zero = d := by
  rw [Distance.add_comm, Distance.zero_add]

/-- A finite number has a finite distance. -/
theorem ofFloat_ne_infinite {x : Float} {a : SignType} (h : sign? x = some a) :
    ofFloat x ≠ infinite := by
  rw [Ne, ofFloat_eq_infinite_iff, isNaN_iff_sign?, h]
  simp

theorem units_ofFloat_of_isFinite {x : Float} {a : SignType} (h : sign? x = some a) (ha : 0 ≤ a)
    (hx : x.isFinite = true) : (ofFloat x).units = Binary64.units (view x) := by
  rw [units_ofFloat h ha, min_eq_left]
  exact (units_view_finite hx).trans_eq units_greatest.symm

/-- Finite numbers that are not negative may be added before or after they are made distances. -/
theorem ofFloat_add {x y : Float} {a b : SignType} (hx : sign? x = some a) (hy : sign? y = some b)
    (ha : 0 ≤ a) (hb : 0 ≤ b) (hx' : x.isFinite = true) (hy' : y.isFinite = true) :
    ofFloat (x + y) = ofFloat x + ofFloat y := by
  apply units_injective
  rw [units_ofFloat (sign?_add hx hy ha hb) (le_max_of_le_left ha), Binary64.units_add hx hy ha hb,
    units_add (ofFloat_ne_infinite hx) (ofFloat_ne_infinite hy),
    units_ofFloat_of_isFinite hx ha hx', units_ofFloat_of_isFinite hy hb hy', min_assoc,
    min_eq_right units_greatest_lt_limit.le]

/-! ### The distances of natural numbers -/

/-- The distance nearest to a natural number. -/
def ofNat (n : ℕ) : Distance := ofFloat (ofInt n)

theorem sign?_ofInt_natCast (n : ℕ) : ∃ a, sign? (ofInt n) = some a ∧ 0 ≤ a :=
  ⟨_, sign?_ofInt n, sign_nonneg_iff.2 (Int.natCast_nonneg n)⟩

theorem units_ofNat (n : ℕ) :
    (ofNat n).units = nearest (n * 2 ^ onePlace) ⊓ greatest.units := by
  obtain ⟨a, ha, ha0⟩ := sign?_ofInt_natCast n
  rw [ofNat, units_ofFloat ha ha0, units_ofInt, Int.natAbs_natCast, min_assoc,
    min_eq_right units_greatest_lt_limit.le]

/-- A number that is not negative has the distance of the natural number it is rounded from. -/
theorem ofFloat_eq_ofNat {x : Float} {a : SignType} (h : sign? x = some a) (ha : 0 ≤ a) {n : ℕ}
    (hn : Binary64.units (view x) = nearest (n * 2 ^ onePlace) ⊓ limit) : ofFloat x = ofNat n := by
  apply units_injective
  rw [units_ofFloat h ha, hn, units_ofNat, min_assoc, min_eq_right units_greatest_lt_limit.le]

theorem ofNat_mono {m n : ℕ} (h : m ≤ n) : ofNat m ≤ ofNat n := by
  rw [le_iff_units, units_ofNat, units_ofNat]
  exact min_le_min_right _ (nearest_mono (Nat.mul_le_mul_right _ h))

theorem two_pow_onePlace_le {n : ℕ} (h : n ≤ 2 ^ 53) : n * 2 ^ onePlace ≤ greatest.units := by
  have hplace : 2 ^ (onePlace + 1) ≤ 2 ^ topPlace :=
    Nat.pow_le_pow_right (by omega) (by rw [onePlace_eq, topPlace_eq]; omega)
  rw [units_greatest]
  calc n * 2 ^ onePlace
      ≤ 2 ^ 53 * 2 ^ onePlace := Nat.mul_le_mul_right _ h
    _ = 2 ^ 52 * 2 ^ (onePlace + 1) := by ring
    _ ≤ (2 ^ 53 - 1) * 2 ^ topPlace := Nat.mul_le_mul (by omega) hplace

/-- Up to `2 ^ 53` a natural number is its own distance. -/
theorem units_ofNat_of_le {n : ℕ} (h : n ≤ 2 ^ 53) : (ofNat n).units = n * 2 ^ onePlace := by
  rw [units_ofNat, nearest_mul_two_pow h, min_eq_left (two_pow_onePlace_le h)]

theorem ofNat_lt_ofNat {m n : ℕ} (h : m < n) (hn : n ≤ 2 ^ 53) : ofNat m < ofNat n := by
  rw [lt_iff_units, units_ofNat_of_le (h.le.trans hn), units_ofNat_of_le hn]
  exact Nat.mul_lt_mul_of_pos_right h (Nat.two_pow_pos _)

theorem ofNat_ne_infinite (n : ℕ) : ofNat n ≠ infinite := ofFloat_ne_infinite (sign?_ofInt n)

theorem ofNat_add_ofNat {m n : ℕ} (h : m + n ≤ 2 ^ 53) : ofNat m + ofNat n = ofNat (m + n) := by
  apply units_injective
  rw [units_add (ofNat_ne_infinite m) (ofNat_ne_infinite n), units_ofNat_of_le (by omega),
    units_ofNat_of_le (by omega), ← Nat.add_mul, units_ofNat]

end BranchDistance.Distance
