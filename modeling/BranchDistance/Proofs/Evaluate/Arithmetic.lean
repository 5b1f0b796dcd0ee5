import BranchDistance.Evaluate.Leaf
import BranchDistance.Proofs.Binary64.Magnitude

/-!
# Arithmetic on integers

Sums, differences, products and remainders of integers are exact integers as long as these fit into
64 binary digits; what does not fit, and every quotient, is computed in binary64.  One remainder is
refused although it fits: that of the least integer divided by minus one, whose quotient does not
(`Operation.apply_int_eq_int_iff`).

No operation has a result that is infinite or not a number (`Operation.isFinite_of_apply`).
-/

namespace BranchDistance

/-! ### Remainders -/

/-- What is left of `a` when multiples of `b` are taken away from it toward zero. -/
structure IsRemainder (a b r : ℤ) : Prop where
  multiple : b ∣ a - r
  small : r.natAbs < b.natAbs
  -- the remainder never lies on the other side of zero
  pos_of_pos : 0 < r → 0 < a
  neg_of_neg : r < 0 → a < 0

theorem isRemainder_tmod (a : ℤ) {b : ℤ} (hb : b ≠ 0) : IsRemainder a b (a.tmod b) where
  multiple := ⟨a.tdiv b, by have := Int.mul_tdiv_add_tmod a b; omega⟩
  small := by
    rw [Int.natAbs_tmod]
    exact Nat.mod_lt _ (Int.natAbs_pos.2 hb)
  pos_of_pos h := by
    by_contra ha
    have hside := Int.tmod_nonneg b (a := -a) (by omega)
    rw [Int.neg_tmod] at hside
    omega
  neg_of_neg h := by
    by_contra ha
    have hside := Int.tmod_nonneg b (a := a) (by omega)
    omega

/-- There is only one remainder. -/
theorem IsRemainder.unique {a b r s : ℤ} (hr : IsRemainder a b r) (hs : IsRemainder a b s) :
    r = s := by
  have hmultiple : b ∣ s - r := by
    have := Int.dvd_sub hr.multiple hs.multiple
    rwa [show a - r - (a - s) = s - r by omega] at this
  have hclose : (s - r).natAbs < b.natAbs := by
    obtain ⟨-, hsmall, hpos, hneg⟩ := hr
    obtain ⟨-, hsmall', hpos', hneg'⟩ := hs
    omega
  have hzero := Int.eq_zero_of_dvd_of_natAbs_lt_natAbs hmultiple hclose
  omega

theorem isRemainder_iff {a b r : ℤ} (hb : b ≠ 0) : IsRemainder a b r ↔ a.tmod b = r := by
  constructor
  · intro h
    exact (isRemainder_tmod a hb).unique h
  · rintro rfl
    exact isRemainder_tmod a hb

/-- A remainder of integers of 64 binary digits has 64 binary digits. -/
theorem exists_isRemainder (a : Int64) {b : Int64} (hb : b ≠ 0) :
    ∃ r : Int64, IsRemainder a.toInt b.toInt r.toInt := by
  have hb' : b.toInt ≠ 0 := fun h => hb (Int64.toInt_inj.1 h)
  refine ⟨Int64.ofInt (a.toInt.tmod b.toInt), ?_⟩
  have hlow := b.le_toInt
  have hhigh := b.toInt_lt
  have hsmall := (isRemainder_tmod a.toInt hb').small
  rw [Int64.toInt_ofInt_of_le (by omega) (by omega)]
  exact isRemainder_tmod a.toInt hb'

/-! ### Results -/

theorem Value.ofInt?_eq_some_iff {m : ℤ} {n : Int64} :
    ofInt? m = some (.int n) ↔ n.toInt = m := by
  have hlow : Int64.minValue.toInt = -2 ^ 63 := rfl
  have hhigh : Int64.maxValue.toInt = 2 ^ 63 - 1 := rfl
  unfold ofInt?
  split
  · next h =>
    rw [Option.some.injEq, Value.int.injEq]
    constructor
    · rintro rfl
      exact Int64.toInt_ofInt_of_le (by omega) (by omega)
    · rintro rfl
      exact Int64.ofInt_toInt n
  · next h =>
    refine iff_of_false nofun ?_
    rintro rfl
    have := n.le_toInt
    have := n.toInt_lt
    omega

namespace Operation

/-- The exact result of an operation, if it is an integer by itself. -/
def HasResult : Operation → ℤ → ℤ → ℤ → Prop
  | add, a, b, n => n = a + b
  | subtract, a, b, n => n = a - b
  | multiply, a, b, n => n = a * b
  | divide, _, _, _ => False
  | modulo, a, b, n => IsRemainder a b n

theorem onIntegers_eq_some_iff {op : Operation} {a b n : Int64} :
    op.onIntegers a b = some (.int n) ↔
      op.HasResult a.toInt b.toInt n.toInt ∧
        ¬ (op = modulo ∧ a = Int64.minValue ∧ b = -1) := by
  cases op with
  | add => simp [onIntegers, HasResult, Value.ofInt?_eq_some_iff]
  | subtract => simp [onIntegers, HasResult, Value.ofInt?_eq_some_iff]
  | multiply => simp [onIntegers, HasResult, Value.ofInt?_eq_some_iff]
  | divide => simp [onIntegers, HasResult]
  | modulo =>
    by_cases hb : b = 0
    · subst hb
      refine iff_of_false ?_ fun h => ?_
      · simp [onIntegers]
      · exact absurd h.1.small (Nat.not_lt_zero _)
    · have hb' : b.toInt ≠ 0 := fun h => hb (Int64.toInt_inj.1 h)
      by_cases hleast : a = Int64.minValue ∧ b = -1
      · simp [onIntegers, hleast]
      · have honly : ¬ (b = 0 ∨ a = Int64.minValue ∧ b = -1) := not_or.2 ⟨hb, hleast⟩
        rw [onIntegers, if_neg honly, Value.ofInt?_eq_some_iff, HasResult, isRemainder_iff hb',
          eq_comm]
        simp [hleast]

/-- Integers that fit are all that is computed from integers alone. -/
theorem exists_int_of_onIntegers {op : Operation} {a b : Int64} {v : Value}
    (h : op.onIntegers a b = some v) : ∃ n, v = .int n := by
  have hfits {m : ℤ} (h : Value.ofInt? m = some v) : ∃ n, v = .int n := by
    unfold Value.ofInt? at h
    split at h
    · exact ⟨_, (Option.some.inj h).symm⟩
    · cases h
  cases op with
  | divide => cases h
  | modulo =>
    rw [onIntegers] at h
    split at h
    · cases h
    · exact hfits h
  | _ => exact hfits h

/-- A result that is computed in binary64 is a finite number. -/
theorem onValues_eq_ok {op : Operation} {l r v : Value} (h : op.onValues l r = .ok v) :
    ∃ x, v = .float x ∧ x.isFinite = true := by
  unfold onValues at h
  split at h
  · split at h
    · split at h
      · next x _ hfinite =>
        cases h
        exact ⟨x, rfl, hfinite⟩
      · cases h
    · cases h
  · cases h

/-- The results of an operation on integers. -/
theorem apply_int_int (op : Operation) (a b : Int64) :
    op.apply (.int a) (.int b) =
      match op.onIntegers a b with
      | some v => .ok v
      | none => op.onValues (.int a) (.int b) := rfl

theorem apply_int_eq_int_iff {op : Operation} {a b n : Int64} :
    op.apply (.int a) (.int b) = .ok (.int n) ↔ op.onIntegers a b = some (.int n) := by
  rw [apply_int_int]
  split
  · next v hv => rw [hv, Except.ok.injEq, Option.some.injEq]
  · next hv =>
    rw [hv]
    refine iff_of_false (fun h => ?_) nofun
    obtain ⟨x, hx, -⟩ := onValues_eq_ok h
    cases hx

/-- Every number among the results is finite. -/
theorem isFinite_of_apply {op : Operation} {l r : Value} {x : Float}
    (h : op.apply l r = .ok (.float x)) : x.isFinite = true := by
  have hvalues {l r : Value} (h : op.onValues l r = .ok (.float x)) : x.isFinite = true := by
    obtain ⟨y, hy, hfinite⟩ := onValues_eq_ok h
    cases hy
    exact hfinite
  unfold apply at h
  split at h
  · cases h
  · split at h
    · next a b _ =>
      split at h
      · next v hv =>
        obtain ⟨n, rfl⟩ := exists_int_of_onIntegers hv
        cases h
      · exact hvalues h
    · exact hvalues h

/-! ### Division by zero -/

/-- A value that stands for the number zero. -/
def IsZero (v : Value) : Prop := ∃ x, v.asNumber? = some x ∧ (x == 0) = true

theorem isZero_int {n : Int64} (h : IsZero (.int n)) : n = 0 := by
  obtain ⟨x, hx, hzero⟩ := h
  cases hx
  rw [Binary64.beq_zero_iff_sign?, Binary64.sign?_ofInt, Option.some.injEq,
    sign_eq_zero_iff] at hzero
  exact Int64.toInt_inj.1 hzero

/-- A quotient and a remainder by zero are invalid, however the zero is written. -/
theorem apply_of_isZero {op : Operation} (hop : op = divide ∨ op = modulo) {l r : Value}
    (hl : l.isNull = false) (hr : IsZero r) : op.apply l r = .error .invalid := by
  have hvalues : op.onValues l r = .error .invalid := by
    obtain ⟨x, hx, hzero⟩ := hr
    unfold onValues
    rw [hx]
    cases l.asNumber? with
    | none => rfl
    | some y => rcases hop with rfl | rfl <;> simp [onNumbers, hzero]
  have hnull : r.isNull = false := by
    obtain ⟨x, hx, -⟩ := hr
    cases r <;> first | rfl | cases hx
  unfold apply
  rw [hl, hnull]
  simp only [Bool.or_self, Bool.false_eq_true, if_false]
  split
  · next a b =>
    obtain rfl := isZero_int hr
    rw [hvalues]
    rcases hop with rfl | rfl <;> rfl
  · exact hvalues

/-! ### Integers stay integers -/

/-- An operation on integers has an integer result exactly if the exact result is an integer that
fits, but for one remainder; that one is a negative zero.  Every remainder by an integer other than
zero fits, a division by zero is invalid, and no result is infinite or not a number. -/
theorem integers_kept (op : Operation) (a b : Int64) (l r : Value) :
    (∀ n : Int64, op.apply (.int a) (.int b) = .ok (.int n) ↔
      op.HasResult a.toInt b.toInt n.toInt ∧
        ¬ (op = modulo ∧ a = Int64.minValue ∧ b = -1)) ∧
    (b ≠ 0 → ∃ rest : Int64, IsRemainder a.toInt b.toInt rest.toInt ∧
      modulo.apply (.int a) (.int b) =
        .ok (if a = Int64.minValue ∧ b = -1 then .float (-0) else .int rest)) ∧
    ((op = divide ∨ op = modulo) → l.isNull = false → IsZero r →
      op.apply l r = .error .invalid) ∧
    ∀ x : Float, op.apply l r = .ok (.float x) → x.isFinite = true := by
  refine ⟨?_, ?_, ?_, ?_⟩
  · intro n
    rw [apply_int_eq_int_iff, onIntegers_eq_some_iff]
  · intro hb
    obtain ⟨rest, hrest⟩ := exists_isRemainder a hb
    refine ⟨rest, hrest, ?_⟩
    by_cases hleast : a = Int64.minValue ∧ b = -1
    · rw [if_pos hleast]
      obtain ⟨rfl, rfl⟩ := hleast
      decide +kernel
    · rw [if_neg hleast, apply_int_eq_int_iff, onIntegers_eq_some_iff]
      exact ⟨hrest, fun h => hleast h.2⟩
  · intro hop hl hr
    exact apply_of_isZero hop hl hr
  · intro x
    exact isFinite_of_apply

/-- A sum that fits and one that does not, remainders of negative integers, and divisions by a
written zero and by a negative one. -/
theorem integers_kept_at_bounds :
    let least := Int64.minValue
    let greatest := Int64.maxValue
    add.apply (.int greatest) (.int (-1)) = .ok (.int (greatest - 1)) ∧
      (∃ x, add.apply (.int greatest) (.int greatest) = .ok (.float x) ∧ x.isFinite = true) ∧
      modulo.apply (.int (-7)) (.int 2) = .ok (.int (-1)) ∧
      modulo.apply (.int least) (.int (-1)) = .ok (.float (-0)) ∧
      divide.apply (.int greatest) (.text " 0 ") = .error .invalid ∧
      modulo.apply (.float 1) (.float (-0)) = .error .invalid := by
  intro least greatest
  refine ⟨?_, ?_, ?_, ?_, ?_, ?_⟩
  · have hsum : add.HasResult greatest.toInt (-1 : Int64).toInt (greatest - 1).toInt := by
      show (greatest - 1).toInt = greatest.toInt + (-1 : Int64).toInt
      decide
    exact ((integers_kept add greatest (-1) .null .null).1 _).2 ⟨hsum, by decide⟩
  · have hsum : add.apply (.int greatest) (.int greatest) =
        .ok (.float (Binary64.ofInt greatest.toInt + Binary64.ofInt greatest.toInt)) := by
      decide +kernel
    exact ⟨_, hsum, (integers_kept add 0 0 _ _).2.2.2 _ hsum⟩
  · have hrest : IsRemainder (-7 : Int64).toInt (2 : Int64).toInt (-1 : Int64).toInt :=
      (isRemainder_iff (by decide)).2 (by decide)
    exact ((integers_kept modulo (-7) 2 .null .null).1 (-1)).2 ⟨hrest, by decide⟩
  · obtain ⟨-, hremainder, -⟩ := integers_kept modulo least (-1) .null .null
    obtain ⟨rest, -, heq⟩ := hremainder (by decide)
    rw [heq, if_pos ⟨rfl, rfl⟩]
  · obtain ⟨-, -, hzero, -⟩ := integers_kept divide 0 0 (.int greatest) (.text " 0 ")
    exact hzero (.inl rfl) rfl ⟨0, by decide +kernel, by decide⟩
  · obtain ⟨-, -, hzero, -⟩ := integers_kept modulo 0 0 (.float 1) (.float (-0))
    exact hzero (.inr rfl) rfl ⟨-0, rfl, by decide⟩

/-- The remainder of the least integer by minus one is zero, but its written form has a sign, which
a pattern sees. -/
theorem lost_remainder :
    let least := Int64.minValue
    IsRemainder least.toInt (-1) 0 ∧
      modulo.apply (.int least) (.int (-1)) = .ok (.float (-0)) ∧
      modulo.apply (.int least) (.int (-1)) ≠ .ok (.int 0) ∧
      Leaf.matching {} false false (.float (-0)) (.text "0") ≠ .satisfied ∧
      Leaf.matching {} false false (.int 0) (.text "0") = .satisfied := by
  intro least
  refine ⟨⟨?_, ?_, ?_, ?_⟩, ?_, ?_, ?_, ?_⟩
  all_goals decide +kernel

end Operation

end BranchDistance
