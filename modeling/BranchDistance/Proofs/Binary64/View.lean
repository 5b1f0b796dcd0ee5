import Mathlib
import BranchDistance.Binary64

/-!
# The parts of a binary64 number

Arithmetic on binary64 numbers is defined on their parts: a sign, a significand and an exponent, or
one of zero, infinity and what is not a number.  Every operation takes the parts of its operands,
computes exactly, rounds and packs the result into bits.

* `view` gives the parts of a number;
* `IsCanonical` says of parts that their significand has 53 binary digits, or fewer at the least
  exponent; this holds of the parts of every number (`isCanonical_view`);
* packing canonical parts keeps them, but for an exponent that is too large, which gives an
  infinity (`view_ofModel_pack`).
-/

namespace BranchDistance.Binary64

open Float.Model (Format UnpackedFloat)
open Float.Model.UnpackedFloat

/-- The parts of a number. -/
def view (x : Float) : UnpackedFloat := x.toModel.unpack

/-- The significand has 53 binary digits, or fewer at the least exponent. -/
def IsCanonical : UnpackedFloat → Prop
  | .finite _ m e _ => m < 2 ^ 53 ∧ -1074 ≤ e ∧ (2 ^ 52 ≤ m ∨ e = -1074)
  | _ => True

/-- The parts with an infinity in place of a number whose exponent is too large. -/
def capped : UnpackedFloat → UnpackedFloat
  | .finite s m e h => if 971 < e then .infinity s else .finite s m e h
  | u => u

theorem view_injective : Function.Injective view := by
  intro x y h
  rcases x with ⟨⟨a, ha⟩⟩
  rcases y with ⟨⟨b, hb⟩⟩
  have hab : a.toBitVec = b.toBitVec := (unpack_inj_of_valid ha hb).1 h
  cases UInt64.toBitVec_inj.1 hab
  rfl

/-! ### Packing -/

theorem toNat_implicit_append {w : ℕ} (v : BitVec w) : (1#1 ++ v).toNat = 2 ^ w + v.toNat := by
  rw [BitVec.toNat_append, ← Nat.shiftLeft_add_eq_or_of_lt v.isLt, Nat.shiftLeft_eq]
  simp

theorem log2_of_lt {m : ℕ} (h : 2 ^ 52 ≤ m) (h' : m < 2 ^ 53) : m.log2 = 52 :=
  (Nat.log2_eq_iff (by omega)).2 ⟨h, h'⟩

/-- How finite parts are packed: an exponent beyond the range gives an infinity, a significand of 53
digits is stored without its first, and any other belongs to the least exponent. -/
theorem pack_finite (s : Sign) (m : ℕ) (e : ℤ) (h : 0 < m) :
    pack .binary64 (.finite s m e h) =
      if 2 ^ 11 ≤ (e + 1075).toNat + 1 then packedInfinity .binary64 s
      else if m.log2 + 1 = 53 then
        packComponents .binary64 s (BitVec.ofNat 11 (e + 1075).toNat) (BitVec.ofNat 52 m)
      else packComponents .binary64 s 0#11 (BitVec.ofNat 52 m) := by
  rw [show e + 1075 = e + (1023 : ℕ) + (52 : ℕ) by omega]
  rfl

theorem unpack_packComponents_normal (s : Sign) {f m : ℕ} (hf : f ≠ 0) (hf' : f < 2047)
    (hm : m < 2 ^ 52) :
    unpack .binary64 (packComponents .binary64 s (BitVec.ofNat 11 f) (BitVec.ofNat 52 m)) =
      .finite s (2 ^ 52 + m) (f - 1075) (by omega) := by
  have hfield : (BitVec.ofNat 11 f).toNat = f := by rw [BitVec.toNat_ofNat]; omega
  have htop : BitVec.ofNat 11 f ≠ -1#11 := fun h => by
    have := congrArg BitVec.toNat h
    rw [hfield] at this
    simp at this
    omega
  have hzero : BitVec.ofNat 11 f ≠ 0#11 := fun h => by
    have := congrArg BitVec.toNat h
    rw [hfield] at this
    simp at this
    omega
  have hmant : (1#1 ++ BitVec.ofNat 52 m).toNat = 2 ^ 52 + m := by
    rw [toNat_implicit_append, BitVec.toNat_ofNat, Nat.mod_eq_of_lt hm]
  simp only [unpack, unpackExponent_packComponents, unpackMantissa_packComponents,
    unpackSign_packComponents, Sign.ofBitVec_toBitVec, htop, hzero, if_false, hmant, hfield]
  congr 1

theorem unpack_packComponents_subnormal (s : Sign) {m : ℕ} (h0 : 0 < m) (hm : m < 2 ^ 52) :
    unpack .binary64 (packComponents .binary64 s 0#11 (BitVec.ofNat 52 m)) =
      .finite s m (-1074) h0 := by
  have hmant : (BitVec.ofNat 52 m).toNat = m := by rw [BitVec.toNat_ofNat, Nat.mod_eq_of_lt hm]
  have hne : BitVec.ofNat 52 m ≠ 0#52 := fun h => by
    have := congrArg BitVec.toNat h
    rw [hmant] at this
    simp at this
    omega
  have htop : (0#11 : BitVec 11) ≠ -1#11 := by decide
  simp only [unpack, unpackExponent_packComponents, unpackMantissa_packComponents,
    unpackSign_packComponents, Sign.ofBitVec_toBitVec, htop, hne, if_false, if_true, dif_neg,
    not_false_eq_true, hmant]
  congr 1

theorem unpack_pack {u : UnpackedFloat} (h : IsCanonical u) :
    unpack .binary64 (pack .binary64 u) = capped u := by
  cases u with
  | notANumber => exact unpack_packedNaN
  | infinity s => cases s <;> rfl
  | zero s => exact unpack_packedZero
  | finite s m e h0 =>
    obtain ⟨hm, he, hn⟩ := h
    rw [pack_finite]
    by_cases hbig : 971 < e
    · rw [if_pos (by omega), show capped (.finite s m e h0) = .infinity s from if_pos hbig]
      cases s <;> rfl
    · rw [if_neg (by omega), show capped (.finite s m e h0) = .finite s m e h0 from if_neg hbig]
      by_cases hlarge : 2 ^ 52 ≤ m
      · have hmod : BitVec.ofNat 52 m = BitVec.ofNat 52 (m - 2 ^ 52) := by
          apply BitVec.eq_of_toNat_eq
          simp only [BitVec.toNat_ofNat]
          omega
        have hsum : 2 ^ 52 + (m - 2 ^ 52) = m := by omega
        have hexp : ((e + 1075).toNat : ℤ) - 1075 = e := by omega
        rw [if_pos (by rw [log2_of_lt hlarge hm]), hmod,
          unpack_packComponents_normal s (by omega) (by omega) (by omega)]
        simp only [hsum, hexp]
      · have hleast : e = -1074 := hn.resolve_left hlarge
        have hlog : m.log2 < 52 := (Nat.log2_lt h0.ne').2 (by omega)
        subst hleast
        rw [if_neg (by omega)]
        exact unpack_packComponents_subnormal s h0 (by omega)

/-- Packing keeps canonical parts, unless their exponent is too large. -/
theorem view_ofModel_pack {u : UnpackedFloat} (h : IsCanonical u) :
    view (.ofModel (.pack u)) = capped u := unpack_pack h

/-! ### The parts of a number are canonical -/

theorem view_finite {x : Float} {s : Sign} {m : ℕ} {e : ℤ} {h : 0 < m}
    (hx : view x = .finite s m e h) :
    m < 2 ^ 53 ∧ -1074 ≤ e ∧ e ≤ 971 ∧ (2 ^ 52 ≤ m ∨ e = -1074) := by
  change unpack .binary64 x.toModel.toBits.toBitVec = _ at hx
  generalize x.toModel.toBits.toBitVec = b at hx
  have hf := (@unpackExponent .binary64 b).isLt
  have hm := (@unpackMantissa .binary64 b).isLt
  change _ < 2 ^ 11 at hf
  change _ < 2 ^ 52 at hm
  have hbias : (Format.binary64.exponentBias : ℤ) = 1023 := rfl
  simp only [unpack, hbias] at hx
  split_ifs at hx with htop hinf hzero hnone
  · have hfield : (@unpackExponent .binary64 b).toNat = 0 := by rw [hzero]; rfl
    cases hx
    omega
  · have htop' : (@unpackExponent .binary64 b).toNat ≠ 2047 := fun h =>
      htop (BitVec.eq_of_toNat_eq h)
    have hzero' : (@unpackExponent .binary64 b).toNat ≠ 0 := fun h =>
      hzero (BitVec.eq_of_toNat_eq h)
    have happ : (1#1 ++ @unpackMantissa .binary64 b).toNat =
        2 ^ 52 + (@unpackMantissa .binary64 b).toNat := toNat_implicit_append _
    cases hx
    omega

theorem isCanonical_view (x : Float) : IsCanonical (view x) := by
  cases hx : view x with
  | finite s m e h =>
    obtain ⟨hm, he, -, hn⟩ := view_finite hx
    exact ⟨hm, he, hn⟩
  | _ => trivial

theorem capped_view (x : Float) : capped (view x) = view x := by
  cases hx : view x with
  | finite s m e h =>
    obtain ⟨-, -, he, -⟩ := view_finite hx
    exact if_neg (by omega)
  | _ => rfl

end BranchDistance.Binary64
