import BranchDistance.Config
import BranchDistance.Distance
import BranchDistance.Proofs.Binary64.Order

/-!
# The laws of distances

Distances form a linear order from `zero` to `infinite`; its minimum is the minimum of distances,
and its comparison is the comparison of bits.  A distance that comes from a number is zero for
numbers that are not positive and infinite for what is not a number (`ofFloat_eq_zero_iff`,
`ofFloat_eq_infinite_iff`); a sum is zero or infinite only through its parts (`add_eq_zero_iff`,
`add_eq_infinite_iff`).
-/

namespace BranchDistance

open Binary64

theorem isDistance_iff {x : Float} : IsDistance x ↔ x = 0 ∨ sign? x = some 1 := by
  have hzero : x.toBits = 0 ↔ x = 0 := by
    refine ⟨fun h => ?_, fun h => by rw [h]; rfl⟩
    rcases x with ⟨⟨b, hb⟩⟩
    cases (show b = 0 from h)
    rfl
  have hpos : (x.isNaN = false ∧ ¬ x ≤ 0) ↔ sign? x = some 1 := by
    rw [← Bool.not_eq_true, isNaN_iff_sign?, nonpos_iff_sign?]
    rcases sign? x with _ | a
    · simp
    · cases a <;> decide
  rw [IsDistance, hzero, hpos]

/-- The default settings pass their check. -/
theorem Config.isValid_default : ({} : Config).IsValid := ⟨by decide, by decide⟩

namespace Distance

@[ext] theorem ext {a b : Distance} (h : a.value = b.value) : a = b := by
  cases a
  cases b
  cases h
  rfl

/-- A distance is zero or positive. -/
theorem eq_zero_or_pos (d : Distance) : d = zero ∨ sign? d.value = some 1 := by
  rcases isDistance_iff.1 d.isDistance with h | h
  · exact .inl (ext h)
  · exact .inr h

@[simp] theorem sign?_zero : sign? zero.value = some 0 := rfl

@[simp] theorem sign?_infinite : sign? infinite.value = some 1 := rfl

@[simp] theorem isZero_iff {d : Distance} : d.isZero = true ↔ d = zero := by
  rw [isZero, beq_zero_iff_sign?]
  refine ⟨fun h => ?_, fun h => by rw [h, sign?_zero]⟩
  rcases eq_zero_or_pos d with hd | hd
  · exact hd
  · rw [hd] at h
    cases h

@[simp] theorem isInfinite_iff {d : Distance} : d.isInfinite = true ↔ d = infinite := by
  rw [isInfinite]
  rcases eq_zero_or_pos d with rfl | hd
  · exact iff_of_false (by decide) (by decide)
  · rw [isInf_iff_of_pos hd]
    exact ⟨fun h => ext h, fun h => by rw [h]; rfl⟩

theorem isFinite_value_iff {d : Distance} : d.value.isFinite = true ↔ d ≠ infinite := by
  rcases eq_zero_or_pos d with rfl | hd
  · exact iff_of_true (by decide) (by decide)
  · rw [isFinite_iff_of_pos hd]
    exact not_congr ⟨fun h => ext h, fun h => by rw [h]; rfl⟩

theorem pos_iff {d : Distance} : 0 < d.value ↔ d ≠ zero := by
  rw [pos_iff_sign?]
  rcases eq_zero_or_pos d with rfl | hd
  · simp
  · refine iff_of_true hd ?_
    rintro rfl
    cases hd

/-! ### The order -/

theorem value_lt_iff {a b : Distance} : a.value < b.value ↔ a.value.toBits < b.value.toBits := by
  have hpos {d : Distance} (h : sign? d.value = some 1) : 0 < d.value.toBits := by
    rw [UInt64.lt_iff_toNat_lt, toNat_toBits h]
    rcases shape_of_pos h with hv | ⟨m, e, k, hv⟩
    · rw [hv]
      decide
    · rw [hv]
      exact Nat.add_pos_right _ k
  rcases eq_zero_or_pos a with rfl | ha <;> rcases eq_zero_or_pos b with rfl | hb
  · exact iff_of_false (by decide) (by decide)
  · exact iff_of_true (pos_iff_sign?.2 hb) (hpos hb)
  · refine iff_of_false (fun h => ?_) (UInt64.not_lt.2 (UInt64.le_of_lt (hpos ha)))
    rw [show zero.value = 0 from rfl, neg_iff_sign?, ha] at h
    cases h
  · exact lt_iff_toBits ha hb

/-- The bits of a distance, as an integer. -/
def bits (d : Distance) : ℕ := d.value.toBits.toNat

theorem bits_injective : Function.Injective bits := by
  intro a b h
  have h' : a.value.toModel.toBits = b.value.toModel.toBits := UInt64.toNat_inj.1 h
  apply ext
  rcases ha : a.value with ⟨⟨x, hx⟩⟩
  rcases hb : b.value with ⟨⟨y, hy⟩⟩
  rw [ha, hb] at h'
  cases (show x = y from h')
  rfl

instance : LT Distance := ⟨fun a b => a.value < b.value⟩

instance : LE Distance := ⟨fun a b => ¬ b < a⟩

instance : Max Distance := ⟨fun a b => if a.value < b.value then b else a⟩

instance : DecidableLT Distance := fun a b => inferInstanceAs (Decidable (a.value < b.value))

instance : DecidableLE Distance := fun a b => inferInstanceAs (Decidable (¬ b < a))

theorem bits_lt_iff {a b : Distance} : a.bits < b.bits ↔ a < b :=
  UInt64.lt_iff_toNat_lt.symm.trans value_lt_iff.symm

theorem bits_le_iff {a b : Distance} : a.bits ≤ b.bits ↔ a ≤ b := by
  rw [← not_lt, bits_lt_iff]
  rfl

theorem bits_min (a b : Distance) : (a ⊓ b).bits = a.bits ⊓ b.bits := by
  change (if b < a then b else a).bits = _
  by_cases h : b < a
  · rw [if_pos h, inf_eq_right.2 (bits_lt_iff.2 h).le]
  · rw [if_neg h, inf_eq_left.2 (bits_le_iff.2 h)]

theorem bits_max (a b : Distance) : (a ⊔ b).bits = a.bits ⊔ b.bits := by
  change (if a < b then b else a).bits = _
  by_cases h : a < b
  · rw [if_pos h, sup_eq_right.2 (bits_lt_iff.2 h).le]
  · rw [if_neg h, sup_eq_left.2 (bits_le_iff.2 h)]

/-- The comparison of bits is the one of the order. -/
theorem compare_bits (a b : Distance) : compare a.bits b.bits = compare a b := by
  change _ = compareOfLessAndEq a.value.toBits b.value.toBits
  rw [LinearOrder.compare_eq_compareOfLessAndEq]
  simp only [compareOfLessAndEq, UInt64.lt_iff_toNat_lt, ← UInt64.toNat_inj]
  rfl

/-- Distances are ordered by their values. -/
instance : LinearOrder Distance :=
  bits_injective.linearOrder bits bits_le_iff bits_lt_iff bits_min bits_max compare_bits

theorem zero_le (d : Distance) : zero ≤ d := bits_le_iff.1 (Nat.zero_le _)

theorem le_infinite (d : Distance) : d ≤ infinite := by
  rcases eq_zero_or_pos d with rfl | hd
  · exact zero_le _
  · refine bits_le_iff.1 ?_
    rw [bits, bits, toNat_toBits hd, toNat_toBits sign?_infinite]
    rcases shape_of_pos hd with hv | ⟨m, e, k, hv⟩
    · rw [hv]
      exact le_rfl
    · -- a finite number has an exponent below the one that infinity is stored with
      obtain ⟨hm, -, he, -⟩ := view_finite hv
      rw [hv, show infinite.value = infinity from rfl, view_infinity]
      simp only [rank]
      omega

instance : BoundedOrder Distance where
  top := infinite
  bot := zero
  le_top := le_infinite
  bot_le := zero_le

@[simp] theorem min_infinite (d : Distance) : d ⊓ infinite = d := min_top_right d

@[simp] theorem infinite_min (d : Distance) : infinite ⊓ d = d := min_top_left d

@[simp] theorem min_zero (d : Distance) : d ⊓ zero = zero := min_bot_right d

theorem min_eq_zero_iff {a b : Distance} : a ⊓ b = zero ↔ a = zero ∨ b = zero := min_eq_bot

theorem min_eq_infinite_iff {a b : Distance} :
    a ⊓ b = infinite ↔ a = infinite ∧ b = infinite :=
  inf_eq_top_iff

/-! ### Distances from numbers -/

theorem ofFloat_of_isNaN {x : Float} (h : x.isNaN = true) : ofFloat x = infinite := dif_pos h

theorem ofFloat_of_nonpos {x : Float} (h : x ≤ 0) : ofFloat x = zero := by
  have hn : ¬ x.isNaN = true := by
    rw [isNaN_iff_sign?]
    rcases nonpos_iff_sign?.1 h with hx | hx <;> simp [hx]
  rw [ofFloat, dif_neg hn, dif_pos h]

/-- A positive number gives itself, but infinity gives the greatest finite number. -/
theorem value_ofFloat_of_pos {x : Float} (h : sign? x = some 1) :
    (ofFloat x).value = if x = infinity then largest else x := by
  have hn : ¬ x.isNaN = true := by
    rw [isNaN_iff_sign?, h]
    simp
  have hp : ¬ x ≤ 0 := by
    rw [nonpos_iff_sign?, h]
    decide
  rw [ofFloat, dif_neg hn, dif_neg hp]
  by_cases hx : x = infinity
  · rw [if_pos hx, if_pos (largest_lt_iff.2 hx)]
    rfl
  · rw [if_neg hx, if_neg (mt largest_lt_iff.1 hx)]

theorem ofFloat_of_pos {x : Float} (h : sign? x = some 1) :
    ofFloat x ≠ zero ∧ ofFloat x ≠ infinite := by
  have hv := value_ofFloat_of_pos h
  by_cases hx : x = infinity
  · rw [if_pos hx] at hv
    rw [show ofFloat x = greatest from ext hv]
    decide
  · rw [if_neg hx] at hv
    refine ⟨?_, ?_⟩ <;> intro h0 <;> rw [h0] at hv
    · rw [← hv] at h
      cases h
    · exact hx hv.symm

/-- Whether a number is positive, not positive, or none at all. -/
theorem isNaN_or_nonpos_or_pos (x : Float) : x.isNaN = true ∨ x ≤ 0 ∨ sign? x = some 1 := by
  rw [isNaN_iff_sign?, nonpos_iff_sign?]
  rcases sign? x with _ | a
  · exact .inl rfl
  · cases a <;> decide

theorem ofFloat_eq_zero_iff {x : Float} : ofFloat x = zero ↔ x ≤ 0 := by
  refine ⟨fun h => ?_, ofFloat_of_nonpos⟩
  rcases isNaN_or_nonpos_or_pos x with hx | hx | hx
  · rw [ofFloat_of_isNaN hx] at h
    exact absurd h (by decide)
  · exact hx
  · exact absurd h (ofFloat_of_pos hx).1

theorem ofFloat_eq_infinite_iff {x : Float} : ofFloat x = infinite ↔ x.isNaN = true := by
  refine ⟨fun h => ?_, ofFloat_of_isNaN⟩
  rcases isNaN_or_nonpos_or_pos x with hx | hx | hx
  · exact hx
  · rw [ofFloat_of_nonpos hx] at h
    exact absurd h (by decide)
  · exact absurd h (ofFloat_of_pos hx).2

/-- The distance of a constant that passes the check is the constant. -/
theorem ofFloat_of_isUsable {x : Float} (h : Config.isUsable x = true) :
    sign? x = some 1 ∧ (ofFloat x).value = x := by
  rw [Config.isUsable, Bool.and_eq_true, Bool.not_eq_true', decide_eq_false_iff_not] at h
  have hx : sign? x = some 1 := by
    rcases isNaN_or_nonpos_or_pos x with hn | hn | hn
    · exact absurd h.1 (isFinite_of_isNaN hn)
    · exact absurd hn h.2
    · exact hn
  refine ⟨hx, ?_⟩
  rw [value_ofFloat_of_pos hx, if_neg]
  rintro rfl
  exact absurd h.1 (by decide)

/-! ### Sums -/

theorem add_of_infinite {a b : Distance} (h : a = infinite ∨ b = infinite) : a + b = infinite := by
  change add a b = infinite
  rw [add, if_pos]
  rwa [Bool.or_eq_true, isInfinite_iff, isInfinite_iff]

theorem add_of_finite {a b : Distance} (ha : a ≠ infinite) (hb : b ≠ infinite) :
    a + b = ofFloat (a.value + b.value) := by
  change add a b = _
  rw [add, if_neg]
  rw [Bool.or_eq_true, isInfinite_iff, isInfinite_iff]
  exact not_or.2 ⟨ha, hb⟩

theorem sign?_value (d : Distance) : sign? d.value = some (if d = zero then 0 else 1) := by
  rcases eq_zero_or_pos d with rfl | h
  · rfl
  · rw [h, if_neg]
    rintro rfl
    cases h

theorem sign?_add_value (a b : Distance) :
    sign? (a.value + b.value) = some (if a = zero ∧ b = zero then 0 else 1) := by
  rw [sign?_add (sign?_value a) (sign?_value b) (by split <;> decide) (by split <;> decide)]
  by_cases ha : a = zero <;> by_cases hb : b = zero <;> simp [ha, hb]

theorem add_eq_infinite_iff {a b : Distance} : a + b = infinite ↔ a = infinite ∨ b = infinite := by
  refine ⟨fun h => ?_, add_of_infinite⟩
  by_contra hne
  rw [add_of_finite (not_or.1 hne).1 (not_or.1 hne).2, ofFloat_eq_infinite_iff, isNaN_iff_sign?,
    sign?_add_value] at h
  cases h

theorem add_eq_zero_iff {a b : Distance} : a + b = zero ↔ a = zero ∧ b = zero := by
  by_cases hinf : a = infinite ∨ b = infinite
  · rw [add_of_infinite hinf]
    rcases hinf with rfl | rfl
    · exact iff_of_false (by decide) (fun h => absurd h.1 (by decide))
    · exact iff_of_false (by decide) (fun h => absurd h.2 (by decide))
  · rw [add_of_finite (not_or.1 hinf).1 (not_or.1 hinf).2, ofFloat_eq_zero_iff, nonpos_iff_sign?,
      sign?_add_value]
    by_cases h : a = zero ∧ b = zero
    · simp [h]
    · rw [if_neg h]
      exact iff_of_false (by decide) h

@[simp] theorem infinite_add (d : Distance) : infinite + d = infinite := add_of_infinite (.inl rfl)

@[simp] theorem add_infinite (d : Distance) : d + infinite = infinite := add_of_infinite (.inr rfl)

/-- A sum that begins at zero rounds nothing. -/
@[simp] theorem zero_add (d : Distance) : zero + d = d := by
  by_cases hinf : d = infinite
  · rw [hinf, add_infinite]
  · rw [add_of_finite (by decide) hinf]
    rcases eq_zero_or_pos d with rfl | hd
    · decide
    · have hsum : zero.value + d.value = d.value := zero_add_of_pos hd
      have hne : d.value ≠ infinity := fun h => hinf (ext h)
      exact ext (by rw [hsum, value_ofFloat_of_pos hd, if_neg hne])

end Distance

end BranchDistance
