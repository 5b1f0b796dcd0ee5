import BranchDistance.Proofs.Decimal.Integer
import BranchDistance.Proofs.Evaluate.Integral

/-!
# Quoted integers

An integer that stands in a text is compared with integers as a binary64 number.  The outcome is
that of the exact difference of the two integers, after both have been rounded to 53 binary digits
(`Relation.outcome_quoted`).  So quoting changes nothing up to `2 ^ 53`, and beyond it distinct
integers may count as equal.
-/

namespace BranchDistance

open Binary64

/-- A text that holds an integer, with nothing but blanks around it. -/
def Quotes (s : String) (n : ℤ) : Prop :=
  ∃ before after, s.toList = before ++ Decimal.ofInt n ++ after ∧
    (∀ c ∈ before, Text.isBlank c = true) ∧ ∀ c ∈ after, Text.isBlank c = true

theorem Quotes.asNumber? {s : String} {n : Int64} (h : Quotes s n.toInt) :
    (Value.text s).asNumber? = some (ofInt n.toInt) := by
  obtain ⟨before, after, hs, hbefore, hafter⟩ := h
  have htrim : Text.trim s.toList = Decimal.ofInt n.toInt := by
    rw [hs, Text.trim_blanks hbefore hafter]
    exact Text.trim_of_not_isBlank fun c => Decimal.not_isBlank_of_mem_ofInt
  rw [Value.asNumber?, htrim, Decimal.readFloat?_ofInt (natAbs_toInt_le n)]
  exact if_pos (isFinite_ofInt (natAbs_toInt_le n))

namespace Relation

/-- An integer and a quoted one are compared by the exact difference of what they are rounded to.
Up to `2 ^ 53`, and for equal integers, this is what is compared without quotes. -/
theorem outcome_quoted (config : Config) (relation : Relation) (m n : Int64) {s : String}
    (h : Quotes s n.toInt) :
    let quoted := relation.outcome config (.int m) (.text s)
    quoted = relation.ofGap config (ofInt (rounded m.toInt - rounded n.toInt)) ∧
      (m = n ∨ m.toInt.natAbs ≤ 2 ^ 53 ∧ n.toInt.natAbs ≤ 2 ^ 53 →
        quoted = relation.outcome config (.int m) (.int n)) ∧
      (config.IsValid →
        (quoted.distance = .zero ↔ relation.HoldsFor (rounded m.toInt) (rounded n.toInt))) := by
  intro quoted
  have hm := natAbs_toInt_le m
  have hn := natAbs_toInt_le n
  have hquoted : quoted = relation.ofGap config (ofInt (rounded m.toInt - rounded n.toInt)) := by
    show relation.outcome config (.int m) (.text s) = _
    have hmatched : Matched.ofValues? (.int m) (.text s) =
        some (.numbers (ofInt m.toInt) (ofInt n.toInt)) := by
      show Matched.both .numbers (some (ofInt m.toInt)) (Value.text s).asNumber? = _
      rw [h.asNumber?]
      rfl
    rw [outcome, hmatched, ← ofInt_sub_ofInt hm hn]
  refine ⟨hquoted, ?_, ?_⟩
  · intro h
    have hgap : rounded m.toInt - rounded n.toInt = m.toInt - n.toInt := by
      rcases h with rfl | ⟨hm, hn⟩
      · rw [Int.sub_self, Int.sub_self]
      · rw [rounded_of_le hm, rounded_of_le hn]
    rw [hquoted, hgap]
    rfl
  · intro hv
    rw [Outcome.distance_eq_zero_iff, hquoted, (relation.ofGap_of_sign? hv (sign?_ofInt _)).2]
    exact (Grade.Decides.of_ite (relation.holds_sign_iff _ _)).eq_satisfied_iff

/-- A text with blanks around it, and one whose integer is rounded. -/
theorem outcome_quoted_blanks :
    Relation.le.outcome {} (.int 40) (.text " 42 ") = Relation.le.outcome {} (.int 40) (.int 42) ∧
      (Relation.eq.outcome {} (.int 9007199254740992) (.text "9007199254740993")).distance =
        .zero := by
  have hspace : ∀ c ∈ [' '], Text.isBlank c = true := List.forall_mem_singleton.2 (by decide)
  have hblank : Quotes " 42 " (42 : Int64).toInt :=
    ⟨[' '], [' '], by decide +kernel, hspace, hspace⟩
  have hlarge : Quotes "9007199254740993" (9007199254740993 : Int64).toInt :=
    ⟨[], [], by decide +kernel, by simp, by simp⟩
  refine ⟨(outcome_quoted {} .le 40 42 hblank).2.1 (.inr (by decide)), ?_⟩
  have hzero := (outcome_quoted {} .eq 9007199254740992 9007199254740993 hlarge).2.2
    Config.isValid_default
  refine hzero.2 ?_
  show rounded _ = rounded _
  decide +kernel

/-- Beyond `2 ^ 53` an integer equals the quoted next one, and is no longer less than it. -/
theorem outcome_quoted_ne :
    let m : Int64 := 9007199254740992
    let n : Int64 := 9007199254740993
    let s := "9007199254740993"
    Quotes s n.toInt ∧ m ≠ n ∧
      eq.outcome {} (.int m) (.text s) = .satisfied ∧
      eq.outcome {} (.int m) (.int n) ≠ .satisfied ∧
      lt.outcome {} (.int m) (.text s) ≠ .satisfied ∧
      lt.outcome {} (.int m) (.int n) = .satisfied := by
  refine ⟨⟨[], [], by decide +kernel, by simp, by simp⟩, ?_⟩
  decide

end Relation

end BranchDistance
