import BranchDistance.Decimal.Reading
import BranchDistance.Proofs.Binary64.Integer
import BranchDistance.Proofs.Text.Blank

/-!
# Written integers

The decimal text of an integer is read back as that integer (`readInt?_ofInt`), and as the binary64
number that the integer itself becomes (`readFloat?_ofInt`).
-/

namespace BranchDistance

theorem natAbs_toInt_le (n : Int64) : n.toInt.natAbs ≤ 2 ^ 64 := by
  have hlow := n.le_toInt
  have hhigh := n.toInt_lt
  omega

namespace Decimal

/-! ### Digits -/

theorem ofDigits_toDigits (n : ℕ) : ofDigits (Nat.toDigits 10 n) = n := by
  have hcore := @Nat.ofDigitChars_ten_toDigits n
  simp only [Nat.ofDigitChars, Nat.mul_comm 10] at hcore
  exact hcore

theorem isDigit_of_mem_toDigits {n : ℕ} {c : Char} (h : c ∈ Nat.toDigits 10 n) :
    c.isDigit = true :=
  Nat.isDigit_of_mem_toDigits (by omega) (by omega) h

theorem exists_toDigits_eq (n : ℕ) :
    ∃ c cs, Nat.toDigits 10 n = c :: cs ∧ c.isDigit = true ∧ ∀ d ∈ cs, d.isDigit = true := by
  obtain ⟨c, cs, h⟩ := List.exists_cons_of_ne_nil (Nat.toDigits_ne_nil (n := n) (b := 10))
  refine ⟨c, cs, h, isDigit_of_mem_toDigits (n := n) (by simp [h]), fun d hd => ?_⟩
  exact isDigit_of_mem_toDigits (n := n) (by simp [h, hd])

theorem takeDigits_toDigits (n : ℕ) : takeDigits (Nat.toDigits 10 n) = (Nat.toDigits 10 n, []) := by
  have hall : ∀ c ∈ Nat.toDigits 10 n, c.isDigit = true := fun c => isDigit_of_mem_toDigits
  rw [takeDigits, List.takeWhile_eq_self_iff.2 hall, List.dropWhile_eq_nil_iff.2 hall]

/-- A digit is no sign. -/
theorem takeSign_toDigits (n : ℕ) : takeSign (Nat.toDigits 10 n) = (false, Nat.toDigits 10 n) := by
  obtain ⟨c, cs, h, hc, -⟩ := exists_toDigits_eq n
  rw [h]
  unfold takeSign
  split
  · next heq => cases heq; cases hc
  · next heq => cases heq; cases hc
  · rfl

theorem toLower_of_isDigit {c : Char} (h : c.isDigit = true) : c.toLower = c := by
  have hle : c.val ≤ 57 := by
    simp only [Char.isDigit, Bool.and_eq_true, decide_eq_true_eq] at h
    exact h.2
  unfold Char.toLower
  split
  · next hupper =>
    have h65 : (65 : UInt32) ≤ c.val := hupper.1
    exact absurd (UInt32.le_trans h65 hle) (by decide)
  · rfl

/-- A digit starts no word. -/
theorem readWord?_toDigits (n : ℕ) : readWord? (Nat.toDigits 10 n) = none := by
  obtain ⟨c, cs, h, hc, -⟩ := exists_toDigits_eq n
  have hne {d : Char} {ds : List Char} (hd : d.isDigit = false) :
      String.ofList ((c :: cs).map Char.toLower) ≠ String.ofList (d :: ds) := by
    intro heq
    have hlist := String.ofList_injective heq
    rw [List.map_cons, toLower_of_isDigit hc] at hlist
    obtain ⟨rfl, -⟩ := List.cons.inj hlist
    rw [hc] at hd
    cases hd
  have hinf : String.ofList ((c :: cs).map Char.toLower) ≠ "inf" := hne (by decide)
  have hinfinity : String.ofList ((c :: cs).map Char.toLower) ≠ "infinity" := hne (by decide)
  have hnan : String.ofList ((c :: cs).map Char.toLower) ≠ "nan" := hne (by decide)
  rw [h, readWord?]
  simp only [hinf, hinfinity, hnan, or_self, if_false]

theorem readUnsigned?_toDigits (n : ℕ) : readUnsigned? (Nat.toDigits 10 n) = some ⟨n, 0⟩ := by
  have hne : (Nat.toDigits 10 n).isEmpty = false := by
    simp [List.isEmpty_eq_false_iff, Nat.toDigits_ne_nil]
  simp [readUnsigned?, takeDigits_toDigits, hne, readExponent?, ofDigits_toDigits]

/-! ### Integers -/

theorem not_isBlank_of_mem_ofInt {n : ℤ} {c : Char} (h : c ∈ ofInt n) :
    Text.isBlank c = false := by
  have hdigit (hc : c ∈ Nat.toDigits 10 n.natAbs) : Text.isBlank c = false :=
    Text.not_isBlank_of_isDigit (isDigit_of_mem_toDigits hc)
  unfold ofInt at h
  split at h
  · rcases List.mem_cons.1 h with rfl | hc
    · decide
    · exact hdigit hc
  · exact hdigit h

theorem ofInt_ne_nil (n : ℤ) : ofInt n ≠ [] := by
  unfold ofInt
  split
  · exact List.cons_ne_nil _ _
  · exact Nat.toDigits_ne_nil

theorem takeSign_ofInt (n : ℤ) :
    takeSign (ofInt n) = (decide (n < 0), Nat.toDigits 10 n.natAbs) := by
  unfold ofInt
  split
  · next h => simp [takeSign, h]
  · next h => rw [takeSign_toDigits, decide_eq_false h]

theorem readInt?_ofInt (n : ℤ) : readInt? (ofInt n) = some n := by
  have hne : (Nat.toDigits 10 n.natAbs).isEmpty = false := by
    simp [List.isEmpty_eq_false_iff, Nat.toDigits_ne_nil]
  have hall : (Nat.toDigits 10 n.natAbs).all Char.isDigit = true :=
    List.all_eq_true.2 fun c => isDigit_of_mem_toDigits
  rw [readInt?, takeSign_ofInt]
  simp only [hne, hall, ofDigits_toDigits]
  by_cases h : n < 0
  · have habs : (n.natAbs : ℤ) = -n := by omega
    simp only [h, habs, decide_true, if_true, Int.neg_neg]
    rfl
  · have habs : (n.natAbs : ℤ) = n := by omega
    simp only [h, habs, decide_false, Bool.false_eq_true, if_false]
    rfl

/-- An integer of up to 64 binary digits has at most 20 decimal ones. -/
theorem digitCount_le {n : ℕ} (h : n ≤ 2 ^ 64) : digitCount n ≤ 20 :=
  (Nat.length_toDigits_le_iff (by omega) (by omega)).2 (by omega)

theorem length_ofInt_le {n : ℤ} (h : n.natAbs ≤ 2 ^ 64) : (ofInt n).length ≤ 21 := by
  have hdigits : (Nat.toDigits 10 n.natAbs).length ≤ 20 := digitCount_le h
  unfold ofInt
  split
  · rw [List.length_cons]
    omega
  · omega

theorem toFloat_integer {n : ℕ} (h : n ≤ 2 ^ 64) : toFloat ⟨n, 0⟩ = Binary64.ofInt n := by
  rcases Nat.eq_zero_or_pos n with rfl | hpos
  · decide
  · have hplace := digitCount_le h
    simp only [toFloat, if_neg hpos.ne']
    rw [if_neg (by omega), if_neg (by omega)]
    exact Binary64.ofScientific_eq_ofInt hpos

theorem readFloat?_ofInt {n : ℤ} (h : n.natAbs ≤ 2 ^ 64) :
    readFloat? (ofInt n) = some (Binary64.ofInt n) := by
  simp only [readFloat?, takeSign_ofInt, readWord?_toDigits, readUnsigned?_toDigits,
    Option.map_some, toFloat_integer h]
  by_cases hn : n < 0
  · have habs : (n.natAbs : ℤ) = -n := by omega
    simp only [hn, habs, decide_true, if_true, Binary64.ofInt_neg hn.ne, Binary64.neg_neg]
  · have habs : (n.natAbs : ℤ) = n := by omega
    simp only [hn, habs, decide_false, Bool.false_eq_true, if_false]

end Decimal

end BranchDistance
