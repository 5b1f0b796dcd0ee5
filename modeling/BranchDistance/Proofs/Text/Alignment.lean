import BranchDistance.Proofs.Binary64.Comparison
import BranchDistance.Proofs.Metrics
import BranchDistance.Text.Alignment

/-!
# The weight of characters

The alignment distance does not depend on the order of the two texts and is zero for equal texts
only (`alignmentDistance_comm`, `alignmentDistance_beq_zero_iff`).  For texts of the same length it
is the sum of the differences of their characters.  A difference of characters is meant to be
outweighed by one of length: it is, as long as no two characters at the same place differ by more
than a character weighs (`alignmentDistance_le`).  Sixteen-bit characters never do, but the
characters above them do.
-/

namespace BranchDistance.Text

open Binary64

/-- The greatest code point. -/
def lastCode : ℕ := 0x10FFFF

theorem separation_comm (m n : ℕ) : separation m n = separation n m := Nat.add_comm _ _

theorem separation_eq_zero_iff {m n : ℕ} : separation m n = 0 ↔ m = n := by
  unfold separation
  omega

theorem separation_le_max (m n : ℕ) : separation m n ≤ max m n := by
  unfold separation
  omega

theorem toNat_le_lastCode (c : Char) : c.toNat ≤ lastCode := by
  have hlast : c.val.toNat ≤ lastCode := by
    have hvalid := c.valid
    simp only [UInt32.isValidChar, Nat.isValidChar] at hvalid
    unfold lastCode
    omega
  exact hlast

/-! ### Costs -/

/-- The cost of the characters is at most a bound on each of them, as often as there are places. -/
theorem alignedCost_le {a b : List Char} {most : ℕ}
    (h : ∀ p ∈ a.zip b, separation p.1.toNat p.2.toNat ≤ most) :
    alignedCost a b ≤ (a.zip b).length * most := by
  have hcost : alignedCost a b =
      ((a.zip b).map fun p => separation p.1.toNat p.2.toNat).sum := by
    rw [alignedCost, ← List.map_uncurry_zip_eq_zipWith]
    rfl
  rw [hcost, ← List.length_map (f := fun p : Char × Char => separation p.1.toNat p.2.toNat)]
  refine List.sum_le_card_nsmul _ _ fun d hd => ?_
  obtain ⟨p, hp, rfl⟩ := List.mem_map.1 hd
  exact h p hp

theorem alignmentCost_of_length {a b : List Char} (h : a.length = b.length) :
    alignmentCost a b = min countMax (alignedCost a b) := by
  have hzero : separation a.length b.length = 0 := by
    unfold separation
    omega
  rw [alignmentCost, addCounts_eq, hzero, Nat.zero_mul, Nat.zero_add]

/-- Characters that are missing cost their weight. -/
theorem alignmentCost_nil (b : List Char) :
    alignmentCost [] b = min countMax (b.length * characterWeight) := by
  have hlength : separation 0 b.length = b.length := by
    unfold separation
    omega
  have hcost : alignedCost [] b = 0 := rfl
  rw [alignmentCost, addCounts_eq, List.length_nil, hlength, hcost, Nat.add_zero]

theorem alignmentCost_le {a b : List Char} {most : ℕ} (hlength : a.length = b.length)
    (h : ∀ p ∈ a.zip b, separation p.1.toNat p.2.toNat ≤ most) :
    alignmentCost a b ≤ min countMax (b.length * most) := by
  have hzip : (a.zip b).length = b.length := by
    rw [List.length_zip, hlength, min_self]
  rw [alignmentCost_of_length hlength, ← hzip]
  exact min_le_min_left _ (alignedCost_le h)

/-! ### Symmetry and zero -/

theorem alignmentDistance_comm (a b : String) : alignmentDistance a b = alignmentDistance b a := by
  have hzip : (fun x y : Char => separation x.toNat y.toNat) =
      fun x y => separation y.toNat x.toNat := by
    funext x y
    exact separation_comm _ _
  unfold alignmentDistance alignmentCost alignedCost
  rw [separation_comm, List.zipWith_comm, hzip]

theorem alignedCost_eq_zero_iff {a b : List Char} (h : a.length = b.length) :
    alignedCost a b = 0 ↔ a = b := by
  induction a generalizing b with
  | nil =>
    cases b with
    | nil => exact iff_of_true rfl rfl
    | cons y b => cases h
  | cons x a ih =>
    cases b with
    | nil => cases h
    | cons y b =>
      have hcons : alignedCost (x :: a) (y :: b) =
          separation x.toNat y.toNat + alignedCost a b := rfl
      rw [hcons, Nat.add_eq_zero_iff, separation_eq_zero_iff, ih (Nat.succ.inj h), Char.toNat_inj,
        List.cons.injEq]

/-- Only equal texts cost nothing, although the cost is capped. -/
theorem alignmentCost_eq_zero_iff (a b : List Char) : alignmentCost a b = 0 ↔ a = b := by
  have hcap (m n : ℕ) : addCounts m n = 0 ↔ m = 0 ∧ n = 0 := by
    have hmax : 0 < countMax := by decide
    rw [addCounts_eq]
    omega
  have hweight : separation a.length b.length * characterWeight = 0 ↔ a.length = b.length := by
    rw [Nat.mul_eq_zero, separation_eq_zero_iff]
    exact or_iff_left (by decide)
  rw [alignmentCost, hcap, hweight]
  constructor
  · rintro ⟨hlength, hcost⟩
    exact (alignedCost_eq_zero_iff hlength).1 hcost
  · rintro rfl
    exact ⟨rfl, (alignedCost_eq_zero_iff rfl).2 rfl⟩

theorem alignmentDistance_beq_zero_iff (a b : String) :
    (alignmentDistance a b == 0) = true ↔ a = b := by
  rw [alignmentDistance, beq_zero_iff_sign?, sign?_ofInt, Option.some_inj, sign_eq_zero_iff,
    Int.natCast_eq_zero, alignmentCost_eq_zero_iff, String.toList_inj]

/-- A difference in length costs at least the weight of a character, although the cost is capped. -/
theorem le_alignmentCost {a b : List Char} (h : a.length ≠ b.length) :
    characterWeight ≤ alignmentCost a b := by
  have hmax : characterWeight ≤ countMax := by decide
  have hlength : 1 ≤ separation a.length b.length :=
    Nat.one_le_iff_ne_zero.2 (mt separation_eq_zero_iff.1 h)
  have hweight := Nat.mul_le_mul_right characterWeight hlength
  rw [alignmentCost, addCounts_eq]
  omega

/-! ### Texts of the same length -/

/-- Texts of the same length are no farther apart than their characters weigh if no two characters
at the same place differ by more than one weighs; then no text of that length is farther from a
target than the empty one.  In any case two characters differ by no more than the greatest code
point.  The bound by the weight holds exactly if the characters differ by no more than it on
average; only for texts of more than `2 ^ 32` characters this may be lost in rounding. -/
theorem alignmentDistance_le (a b : String) (hlength : a.length = b.length) :
    ((∀ p ∈ a.toList.zip b.toList, separation p.1.toNat p.2.toNat ≤ characterWeight) →
        alignmentDistance a b ≤ ofInt (b.length * characterWeight : ℕ) ∧
          alignmentDistance a b ≤ alignmentDistance "" b) ∧
      alignmentDistance a b ≤ ofInt (b.length * lastCode : ℕ) ∧
      (b.length ≤ 2 ^ 32 →
        (alignmentDistance a b ≤ ofInt (b.length * characterWeight : ℕ) ↔
          alignedCost a.toList b.toList ≤ b.length * characterWeight)) := by
  rw [← String.length_toList, ← String.length_toList] at hlength
  have hcodes : ∀ p ∈ a.toList.zip b.toList, separation p.1.toNat p.2.toNat ≤ lastCode := fun p _ =>
    (separation_le_max _ _).trans (max_le (toNat_le_lastCode _) (toNat_le_lastCode _))
  have hbound {most : ℕ}
      (h : ∀ p ∈ a.toList.zip b.toList, separation p.1.toNat p.2.toNat ≤ most) :
      alignmentDistance a b ≤ ofInt (b.toList.length * most : ℕ) :=
    ofInt_le_ofInt ((alignmentCost_le hlength h).trans (min_le_right _ _))
  rw [← String.length_toList (s := b)]
  refine ⟨fun h => ⟨hbound h, ?_⟩, hbound hcodes, fun hshort => ?_⟩
  · refine ofInt_le_ofInt ((alignmentCost_le hlength h).trans_eq ?_)
    rw [String.toList_empty, alignmentCost_nil]
  · have hcost : alignedCost a.toList b.toList ≤ b.toList.length * lastCode := by
      have h := alignedCost_le hcodes
      rwa [List.length_zip, hlength, min_self] at h
    have hlast : b.toList.length * lastCode ≤ 2 ^ 53 :=
      (Nat.mul_le_mul_right _ hshort).trans (by decide)
    have hweight : b.toList.length * characterWeight ≤ b.toList.length * lastCode :=
      Nat.mul_le_mul_left _ (by decide)
    have hcap : alignmentCost a.toList b.toList = alignedCost a.toList b.toList := by
      have hmax : 2 ^ 53 ≤ countMax := by decide
      rw [alignmentCost_of_length hlength, min_eq_right (hcost.trans (hlast.trans hmax))]
    rw [alignmentDistance, hcap, ofInt_le_ofInt_iff (hcost.trans hlast) (hweight.trans hlast)]

/-- Characters of sixteen bits. -/
theorem alignmentDistance_le_sixteen :
    "日本語".length = "abc".length ∧
      (∀ p ∈ "日本語".toList.zip "abc".toList,
        separation p.1.toNat p.2.toNat ≤ characterWeight) ∧
      "abc".length ≤ 2 ^ 32 ∧
      alignmentDistance "日本語" "abc" ≤ alignmentDistance "" "abc" ∧
      alignedCost "日本語".toList "abc".toList ≤ "abc".length * characterWeight := by
  have hlength : "日本語".length = "abc".length := by decide
  have hpairs : ∀ p ∈ "日本語".toList.zip "abc".toList,
      separation p.1.toNat p.2.toNat ≤ characterWeight := by decide
  have hshort : "abc".length ≤ 2 ^ 32 := by decide
  obtain ⟨hweight, -, haverage⟩ := alignmentDistance_le _ _ hlength
  exact ⟨hlength, hpairs, hshort, (hweight hpairs).2, (haverage hshort).1 (hweight hpairs).1⟩

/-- A character above those of sixteen bits is farther from a letter than the empty text is. -/
theorem weight_lt_alignmentDistance :
    "😀".length = "a".length ∧
      ¬ alignmentDistance "😀" "a" ≤ ofInt ("a".length * characterWeight : ℕ) ∧
      alignmentDistance "" "a" < alignmentDistance "😀" "a" := by
  decide

end BranchDistance.Text
