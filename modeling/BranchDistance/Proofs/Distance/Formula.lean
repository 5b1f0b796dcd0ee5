import BranchDistance.Proofs.Binary64.Comparison
import BranchDistance.Proofs.Distance.Sum

/-!
# Formulas over distances

A formula makes distances from constants and from numbers of any bits, and combines them by sums and
minima.  It can be read in two ways.  `Formula.distance` uses the operations on distances, which
carry their domain with them.  `Formula.number` uses plain binary64 numbers, and nothing but the
formula keeps a number in the domain: both readings agree (`Formula.number_eq`), every step restores
the domain (`isInDomain_value`), and nothing in it is out of reach (`Formula.exists_distance_eq`).

On the domain the total order of all bits, by which distances are compared, is the order of numbers
(`comparesAsNumbers`); outside of it zeros of both signs and what is not a number are set apart.
-/

namespace BranchDistance

/-! ### The total order of bits -/

namespace Binary64

/-- The place of a number in the total order of all bits.  Those with the sign bit set come first,
the greatest magnitude before all others. -/
def totalRank (x : Float) : ℤ :=
  if signBit x then -1 - (x.toBits.toNat % 2 ^ 63 : ℕ) else x.toBits.toNat

/-- The comparison of two numbers, or of what is none, by their bits. -/
def totalCompare (x y : Float) : Ordering := compare (totalRank x) (totalRank y)

theorem totalRank_of_lt {x : Float} (h : x.toBits.toNat < 2 ^ 63) :
    totalRank x = x.toBits.toNat := by
  have hsign : signBit x = false := by
    unfold signBit
    simp only [beq_eq_false_iff_ne, ne_eq, Nat.pow_eq]
    omega
  rw [totalRank, hsign, if_neg Bool.false_ne_true]

end Binary64

open Binary64

namespace Distance

/-- Positive zero, a positive finite number or positive infinity. -/
def IsInDomain (x : Float) : Prop :=
  x.toBits = 0 ∨ (0 < x ∧ x.isFinite = true) ∨ x.toBits = infinity.toBits

theorem isInDomain_value (d : Distance) : IsInDomain d.value := by
  by_cases hzero : d = zero
  · subst hzero
    exact .inl rfl
  by_cases hinfinite : d = infinite
  · subst hinfinite
    exact .inr (.inr rfl)
  · exact .inr (.inl ⟨pos_iff.2 hzero, isFinite_value_iff.2 hinfinite⟩)

theorem isNaN_value (d : Distance) : d.value.isNaN = false := by
  rw [← Bool.not_eq_true, isNaN_iff_sign?, sign?_value]
  simp

/-! ### The order -/

theorem bits_lt (d : Distance) : d.bits < 2 ^ 63 := by
  have hle : d.bits ≤ infinite.bits := bits_le_iff.2 (le_infinite d)
  have hinfinite : infinite.bits < 2 ^ 63 := by decide
  omega

/-- The value has no sign bit, so it is not the negative zero. -/
theorem toBits_value_ne (d : Distance) : d.value.toBits ≠ (-0 : Float).toBits := by
  intro h
  have hbits : d.bits = (-0 : Float).toBits.toNat := congrArg UInt64.toNat h
  have hnegative : (-0 : Float).toBits.toNat = 2 ^ 63 := by decide
  have hlt := bits_lt d
  omega

theorem compare_eq_totalCompare (a b : Distance) :
    compare a b = totalCompare a.value b.value := by
  rw [totalCompare, totalRank_of_lt (bits_lt a), totalRank_of_lt (bits_lt b), ← compare_bits]
  change compare a.bits b.bits = compare (a.bits : ℤ) (b.bits : ℤ)
  simp only [compare, compareOfLessAndEq, Int.ofNat_lt, Nat.cast_inj]

theorem le_iff_value_le {a b : Distance} : a ≤ b ↔ a.value ≤ b.value :=
  (le_iff_not_lt (sign?_value a) (sign?_value b)).symm

theorem eq_iff_value_beq {a b : Distance} : a = b ↔ (a.value == b.value) = true := by
  rw [beq_iff_not_lt (sign?_value a) (sign?_value b), ← bits_injective.eq_iff]
  change _ ↔ ¬ a < b ∧ ¬ b < a
  rw [← bits_lt_iff, ← bits_lt_iff]
  omega

/-- Two distances are compared by their bits, by the order of numbers and by the equality of
numbers, with the same result. -/
structure ComparesAsNumbers (a b : Distance) : Prop where
  total : compare a b = totalCompare a.value b.value
  lt : compare a b = .lt ↔ a.value < b.value
  eq : compare a b = .eq ↔ (a.value == b.value) = true
  gt : compare a b = .gt ↔ b.value < a.value
  le : a ≤ b ↔ a.value ≤ b.value
  same : a = b ↔ (a.value == b.value) = true

theorem comparesAsNumbers (a b : Distance) : ComparesAsNumbers a b where
  total := compare_eq_totalCompare a b
  lt := compare_lt_iff_lt
  eq := compare_eq_iff_eq.trans eq_iff_value_beq
  gt := compare_gt_iff_gt
  le := le_iff_value_le
  same := eq_iff_value_beq

/-! ### Plain numbers -/

/-- A number brought into the domain.  What is not a number becomes infinite, but infinity itself is
the greatest finite number. -/
def clamped (x : Float) : Float :=
  if x.isNaN then infinity else if x ≤ 0 then 0 else if largest < x then largest else x

/-- The sum of two numbers, brought into the domain unless one of them is infinite. -/
def cappedSum (x y : Float) : Float :=
  if x.isInf || y.isInf then infinity else clamped (x + y)

theorem value_ofFloat (x : Float) : (ofFloat x).value = clamped x := by
  unfold ofFloat clamped
  split_ifs <;> rfl

theorem value_add (a b : Distance) : (a + b).value = cappedSum a.value b.value := by
  change (add a b).value = _
  rw [add, cappedSum, apply_ite value, value_ofFloat]
  rfl

theorem value_min (a b : Distance) :
    (a.min b).value = if b.value < a.value then b.value else a.value :=
  apply_ite value _ _ _

/-! ### Formulas -/

/-- A formula over distances. -/
inductive Formula where
  | zero
  | infinite
  /-- The finite distance nearest to the number of some bits. -/
  | ofBits (bits : UInt64)
  | add (f g : Formula)
  | min (f g : Formula)

namespace Formula

/-- The distance that a formula yields. -/
def distance : Formula → Distance
  | zero => .zero
  | infinite => .infinite
  | ofBits bits => ofFloat (Float.ofBits bits)
  | add f g => f.distance + g.distance
  | min f g => f.distance.min g.distance

/-- The number that a formula yields when it is computed with plain numbers. -/
def number : Formula → Float
  | zero => 0
  | infinite => infinity
  | ofBits bits => clamped (Float.ofBits bits)
  | add f g => cappedSum f.number g.number
  | min f g => if g.number < f.number then g.number else f.number

theorem number_eq (f : Formula) : f.number = f.distance.value := by
  induction f with
  | zero => rfl
  | infinite => rfl
  | ofBits bits => exact (value_ofFloat _).symm
  | add f g hf hg => rw [number, hf, hg, distance, value_add]
  | min f g hf hg => rw [number, hf, hg, distance, value_min]

/-- Every distance is made by a formula, be it only from its own bits. -/
theorem exists_distance_eq (d : Distance) : ∃ f : Formula, f.distance = d := by
  by_cases hinfinite : d = .infinite
  · exact ⟨infinite, hinfinite.symm⟩
  · refine ⟨ofBits d.value.toBits, ?_⟩
    rw [distance, Float.ofBits_toBits]
    rcases eq_zero_or_pos d with rfl | hpos
    · decide
    · have hvalue : d.value ≠ infinity := fun h => hinfinite (ext h)
      exact ext (by rw [value_ofFloat_of_pos hpos, if_neg hvalue])

end Formula

/-! ### Laws -/

/-- A sum does not depend on the order of its two parts, has a unit and an absorbing part, grows
with each part, and is infinite or zero only through its parts. -/
structure SumLaws (a b c : Distance) : Prop where
  comm : a + b = b + a
  zero_left : zero + a = a
  infinite_left : infinite + a = infinite
  mono_left : a ≤ b → a + c ≤ b + c
  mono_right : a ≤ b → c + a ≤ c + b
  eq_infinite : a + b = infinite → a = infinite ∨ b = infinite
  eq_zero : a + b = zero → a = zero ∧ b = zero

theorem sumLaws (a b c : Distance) : SumLaws a b c where
  comm := Distance.add_comm a b
  zero_left := Distance.zero_add a
  infinite_left := infinite_add a
  mono_left h := Distance.add_le_add h le_rfl
  mono_right h := Distance.add_le_add le_rfl h
  eq_infinite := add_eq_infinite_iff.1
  eq_zero := add_eq_zero_iff.1

/-- Whatever a formula over distances yields, computed with plain numbers, is positive zero, a
positive finite number or positive infinity, and every distance arises so.  Distances are compared
as numbers are, their sums obey the laws of sums but for rounding, and minima may be taken in any
order. -/
theorem ordered_sum :
    (∀ f : Formula, f.number = f.distance.value ∧ IsInDomain f.number ∧
      f.number.isNaN = false ∧ f.number.toBits ≠ (-0 : Float).toBits) ∧
    (∀ d : Distance, ∃ f : Formula, f.distance = d) ∧
    (∀ a b : Distance, ComparesAsNumbers a b) ∧
    (∀ a b c : Distance, SumLaws a b c) ∧
    ∀ a b c : Distance,
      a.min b = b.min a ∧ (a.min b).min c = a.min (b.min c) ∧ a.min a = a := by
  refine ⟨fun f => ⟨f.number_eq, ?_⟩, Formula.exists_distance_eq, comparesAsNumbers, sumLaws,
    fun a b c => ?_⟩
  · rw [f.number_eq]
    exact ⟨isInDomain_value _, isNaN_value _, toBits_value_ne _⟩
  · exact ⟨min_comm a b, min_assoc a b c, min_self a⟩

/-- A sum beyond the greatest finite distance, with the negative zero and what is not a number among
the numbers that the formula begins with. -/
theorem ordered_sum_capped :
    let greatest : Formula := .ofBits 0x7FEFFFFFFFFFFFFF
    let f : Formula := .min (.add greatest (.add (.ofBits 0x8000000000000000) greatest))
      (.ofBits 0xFFF8000000000001)
    f.number = largest ∧ IsInDomain f.number ∧ zero ≤ f.distance ∧
      zero + infinite ≤ f.distance + infinite := by
  intro greatest f
  obtain ⟨hformula, -, -, hsum, -⟩ := ordered_sum
  have hle : zero ≤ f.distance := by decide
  exact ⟨by decide, (hformula f).2.1, hle, (hsum _ _ _).mono_left hle⟩

end Distance

end BranchDistance
