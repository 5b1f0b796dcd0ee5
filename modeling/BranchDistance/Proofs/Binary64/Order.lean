import BranchDistance.Proofs.Binary64.Sign

/-!
# The order of positive binary64 numbers

The bits of a number that is not negative, read as an integer, grow with the number: the exponent
stands before the significand, and the significand of a normal number is stored without its first
digit.

* `rank` computes the bits from the parts (`toNat_toBits`);
* positive numbers are ordered as their ranks are (`compare_eq_lt_iff`), and so as their bits
  (`lt_iff_toBits`).
-/

namespace BranchDistance.Binary64

open Float.Model (Format UnpackedFloat)
open Float.Model.UnpackedFloat

/-- The bits of parts, without the sign bit, as an integer. -/
def rank : UnpackedFloat → ℕ
  | .notANumber => 2047 * 2 ^ 52 + 2 ^ 51
  | .infinity _ => 2047 * 2 ^ 52
  | .zero _ => 0
  | .finite _ m e _ => (e + 1074).toNat * 2 ^ 52 + m

theorem ofModel_pack_view (x : Float) : .ofModel (.pack (view x)) = x :=
  view_injective (by rw [view_ofModel_pack (isCanonical_view x), capped_view])

theorem toNat_packComponents (f : BitVec 11) (m : BitVec 52) :
    (packComponents .binary64 .positive f m).toNat = f.toNat * 2 ^ 52 + m.toNat := by
  change (0#1 ++ f ++ m).toNat = _
  rw [BitVec.toNat_append, ← Nat.shiftLeft_add_eq_or_of_lt m.isLt, BitVec.toNat_append,
    Nat.shiftLeft_eq]
  simp

theorem toNat_pack_finite {m : ℕ} {e : ℤ} {h : 0 < m} (hc : IsCanonical (.finite .positive m e h))
    (he : e ≤ 971) :
    (pack .binary64 (.finite .positive m e h)).toNat = rank (.finite .positive m e h) := by
  obtain ⟨hm, he', hn⟩ := hc
  rw [pack_finite, if_neg (by omega), rank]
  by_cases hlarge : 2 ^ 52 ≤ m
  · rw [if_pos (by rw [log2_of_lt hlarge hm]), toNat_packComponents, BitVec.toNat_ofNat,
      BitVec.toNat_ofNat]
    omega
  · have hlog : m.log2 < 52 := (Nat.log2_lt h.ne').2 (by omega)
    rw [if_neg (by omega), toNat_packComponents, BitVec.toNat_ofNat, BitVec.toNat_ofNat]
    omega

/-- The bits of a positive number are its rank. -/
theorem toNat_toBits {x : Float} (h : sign? x = some 1) : x.toBits.toNat = rank (view x) := by
  have hx : x.toBits.toNat = (pack .binary64 (view x)).toNat := by
    conv_lhs => rw [← ofModel_pack_view x]
    rfl
  rw [hx]
  rcases shape_of_pos h with hv | ⟨m, e, k, hv⟩
  · rw [hv]
    rfl
  · obtain ⟨-, -, he, -⟩ := view_finite hv
    have hc := isCanonical_view x
    rw [hv] at hc ⊢
    exact toNat_pack_finite hc he

theorem compare_eq_lt_iff {x y : Float} (hx : sign? x = some 1) (hy : sign? y = some 1) :
    (view x).compare (view y) = some .lt ↔ rank (view x) < rank (view y) := by
  rcases shape_of_pos hx with hv | ⟨m, e, h, hv⟩
  · rcases shape_of_pos hy with hw | ⟨n, f, k, hw⟩
    · simp [hv, hw, UnpackedFloat.compare]
    · obtain ⟨hn, -, hf, -⟩ := view_finite hw
      simp only [hv, hw, UnpackedFloat.compare, rank]
      simp
      omega
  · obtain ⟨hm, he, he', hne⟩ := view_finite hv
    rcases shape_of_pos hy with hw | ⟨n, f, k, hw⟩
    · simp only [hv, hw, UnpackedFloat.compare, rank]
      simp
      omega
    · obtain ⟨hn, hf, hf', hnf⟩ := view_finite hw
      simp only [hv, hw, UnpackedFloat.compare, rank, Option.some.injEq, Ordering.then_eq_lt,
        Int.compare_eq_lt, Int.compare_eq_eq, Nat.compare_eq_lt]
      omega

/-- Positive numbers are ordered as their bits are. -/
theorem lt_iff_toBits {x y : Float} (hx : sign? x = some 1) (hy : sign? y = some 1) :
    x < y ↔ x.toBits < y.toBits := by
  rw [lt_iff_compare, compare_eq_lt_iff hx hy, UInt64.lt_iff_toNat_lt, toNat_toBits hx,
    toNat_toBits hy]

end BranchDistance.Binary64
