import BranchDistance.Proofs.Binary64.Integer
import BranchDistance.Proofs.Text.Alignment
import BranchDistance.Proofs.Text.ByteOrder

/-!
# The order gap and the order of texts

The order gap of two texts has the sign of their order: it is decided by the code points at the
first place where the texts differ, and a beginning comes before the whole
(`orderDifference_neg_iff`).  Rounding keeps the sign.  The alignment distance, which sums over all
places, agrees with the gap on which texts are equal.
-/

namespace BranchDistance.Text

open Binary64

/-! ### The difference of two texts -/

theorem toNat_lt_iff {x y : Char} : x.toNat < y.toNat ↔ x < y := Iff.rfl

theorem orderDifference_swap (a b : List Char) : orderDifference b a = -orderDifference a b := by
  induction a generalizing b with
  | nil =>
    cases b with
    | nil => rfl
    | cons y b => simp [orderDifference]
  | cons x a ih =>
    cases b with
    | nil => simp [orderDifference]
    | cons y b =>
      unfold orderDifference
      by_cases h : x = y
      · rw [if_pos h, if_pos h.symm, ih]
      · rw [if_neg h, if_neg (Ne.symm h)]
        omega

/-- The first place where two texts differ decides their order; a text that ends there comes
first. -/
theorem orderDifference_neg_iff (a b : List Char) : orderDifference a b < 0 ↔ a < b := by
  induction a generalizing b with
  | nil =>
    cases b with
    | nil => exact iff_of_false (by decide) (List.lt_irrefl [])
    | cons y b =>
      refine iff_of_true ?_ (List.nil_lt_cons y b)
      simp only [orderDifference, List.length_nil, List.length_cons]
      omega
  | cons x a ih =>
    cases b with
    | nil =>
      refine iff_of_false ?_ (List.not_lt_nil _)
      simp only [orderDifference, List.length_nil, List.length_cons]
      omega
    | cons y b =>
      rw [List.cons_lt_cons_iff, orderDifference]
      by_cases h : x = y
      · subst h
        rw [if_pos rfl, ih]
        simp
      · rw [if_neg h, ← toNat_lt_iff]
        have hrest : ¬ (x = y ∧ a < b) := fun hxy => h hxy.1
        rw [or_iff_left hrest]
        omega

theorem orderDifference_pos_iff (a b : List Char) : 0 < orderDifference a b ↔ b < a := by
  rw [← orderDifference_neg_iff, orderDifference_swap a b]
  omega

theorem orderDifference_eq_zero_iff (a b : List Char) : orderDifference a b = 0 ↔ a = b := by
  have hneg := orderDifference_neg_iff a b
  have hpos := orderDifference_pos_iff a b
  constructor
  · intro h
    rcases lt_trichotomy a b with hlt | heq | hgt
    · have := hneg.2 hlt
      omega
    · exact heq
    · have := hpos.2 hgt
      omega
  · rintro rfl
    have hlt := mt hneg.1 (lt_irrefl a)
    have hgt := mt hpos.1 (lt_irrefl a)
    omega

/-! ### The gap -/

theorem sign?_orderGap (a b : String) :
    sign? (orderGap a b) = some (SignType.sign (orderDifference a.toList b.toList)) :=
  sign?_ofInt _

theorem orderGap_neg_iff (a b : String) : orderGap a b < 0 ↔ a < b := by
  rw [neg_iff_sign?, sign?_orderGap, Option.some_inj, sign_eq_neg_one_iff, orderDifference_neg_iff,
    String.lt_iff_toList_lt]

theorem orderGap_pos_iff (a b : String) : 0 < orderGap a b ↔ b < a := by
  rw [pos_iff_sign?, sign?_orderGap, Option.some_inj, sign_eq_one_iff, orderDifference_pos_iff,
    String.lt_iff_toList_lt]

theorem orderGap_beq_zero_iff (a b : String) : (orderGap a b == 0) = true ↔ a = b := by
  rw [beq_zero_iff_sign?, sign?_orderGap, Option.some_inj, sign_eq_zero_iff,
    orderDifference_eq_zero_iff, String.toList_inj]

theorem isOpposite_orderGap (a b : String) : IsOpposite (orderGap a b) (orderGap b a) := by
  unfold orderGap
  rw [orderDifference_swap a.toList b.toList]
  exact isOpposite_ofInt _

theorem orderGap_nonpos_iff (a b : String) : orderGap a b ≤ 0 ↔ a ≤ b := by
  rw [nonpos_iff_sign?, ← beq_zero_iff_sign?, ← neg_iff_sign?, orderGap_beq_zero_iff,
    orderGap_neg_iff, le_iff_eq_or_lt]

/-- The two numbers whose difference is the gap: the code points at the first place where the texts
differ, or else the lengths. -/
def firstDifference : List Char → List Char → ℕ × ℕ
  | x :: xs, y :: ys => if x = y then firstDifference xs ys else (x.toNat, y.toNat)
  | xs, ys => (xs.length, ys.length)

theorem orderDifference_eq_sub (a b : List Char) :
    orderDifference a b = (firstDifference a b).1 - (firstDifference a b).2 := by
  fun_induction firstDifference a b with
  | case1 x xs ys ih => rw [orderDifference, if_pos rfl, ih]
  | case2 x xs y ys h => rw [orderDifference, if_neg h]
  | case3 xs ys h => rw [orderDifference]; exact h

theorem firstDifference_le {a b : List Char} {most : ℕ} (hcode : lastCode ≤ most)
    (ha : a.length ≤ most) (hb : b.length ≤ most) :
    (firstDifference a b).1 ≤ most ∧ (firstDifference a b).2 ≤ most := by
  fun_induction firstDifference a b with
  | case1 x xs ys ih =>
    rw [List.length_cons] at ha hb
    exact ih (by omega) (by omega)
  | case2 x xs y ys h =>
    exact ⟨(toNat_le_lastCode x).trans hcode, (toNat_le_lastCode y).trans hcode⟩
  | case3 xs ys h => exact ⟨ha, hb⟩

/-- For texts whose lengths are not rounded, the gap is the difference of two numbers. -/
theorem orderGap_eq_sub {a b : String} (ha : a.length ≤ 2 ^ 53) (hb : b.length ≤ 2 ^ 53) :
    orderGap a b = ofInt (firstDifference a.toList b.toList).1 -
      ofInt (firstDifference a.toList b.toList).2 := by
  rw [← String.length_toList] at ha hb
  obtain ⟨hfirst, hsecond⟩ := firstDifference_le (by decide) ha hb
  rw [ofInt_sub_ofInt (by omega) (by omega), rounded_of_le (by omega), rounded_of_le (by omega),
    ← orderDifference_eq_sub, orderGap]

/-! ### The order of texts -/

/-- The order gap is negative, zero or positive as the first text comes before the second, is equal
to it or comes after it, in the order of code points and so in that of the bytes; in the other order
the texts have the negated gap.  The alignment distance is the same in both orders, is zero for
equal texts only, and is at least the weight of a character if the lengths differ. -/
theorem lexicographic_gap (a b c : String) :
    (orderGap a b < 0 ↔ a < b) ∧
    ((orderGap a b == 0) = true ↔ a = b) ∧
    (0 < orderGap a b ↔ b < a) ∧
    (a < b ↔ bytes a < bytes b) ∧
    (orderGap b a == -orderGap a b) = true ∧
    (orderGap a b ≤ 0 → orderGap b c ≤ 0 → orderGap a c ≤ 0) ∧
    alignmentDistance a b = alignmentDistance b a ∧
    ((alignmentDistance a b == 0) = true ↔ a = b) ∧
    (a.length ≠ b.length → ofInt characterWeight ≤ alignmentDistance a b) := by
  refine ⟨orderGap_neg_iff a b, orderGap_beq_zero_iff a b, orderGap_pos_iff a b, lt_iff_bytes_lt,
    beq_neg_of_isOpposite (isOpposite_orderGap a b) (sign?_orderGap a b), fun hab hbc => ?_,
    alignmentDistance_comm a b, alignmentDistance_beq_zero_iff a b, fun hlength => ?_⟩
  · rw [orderGap_nonpos_iff] at hab hbc ⊢
    exact hab.trans hbc
  · rw [← String.length_toList, ← String.length_toList] at hlength
    exact ofInt_le_ofInt (le_alignmentCost hlength)

/-- A beginning comes before the whole, and the character that it lacks costs its weight. -/
theorem lexicographic_gap_prefix :
    orderGap "日本" "日本語" < 0 ∧ orderGap "日本語" "日本😀" ≤ 0 ∧
      orderGap "日本" "日本😀" ≤ 0 ∧ "日本".length ≠ "日本語".length ∧
      ofInt characterWeight ≤ alignmentDistance "日本" "日本語" := by
  have hshort : orderGap "日本" "日本語" ≤ 0 := by decide
  have hlast : orderGap "日本語" "日本😀" ≤ 0 := by decide
  have hlength : "日本".length ≠ "日本語".length := by decide
  obtain ⟨hlt, -, -, -, -, htrans, -, -, hweight⟩ :=
    lexicographic_gap "日本" "日本語" "日本😀"
  exact ⟨hlt.2 (by decide), hlast, htrans hshort hlast, hlength, hweight hlength⟩

end BranchDistance.Text
