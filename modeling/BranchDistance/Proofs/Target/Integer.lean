import BranchDistance.Evaluate.Relation
import BranchDistance.Proofs.Sql.Integer
import BranchDistance.Proofs.Target.Statement

/-!
# Integers in targets

The equation of a column with a written integer has that integer as its operand, with one
exception: the digits of the least integer do not fit into 64 binary digits without their sign, so
that they are read as a binary64 number (`Target.ofText?_equationText`).
-/

namespace BranchDistance

open Sql (IsLexeme spacedOut integerExpr integerTokens wordLexeme)

/-! ### Operands -/

theorem Value.ofInt?_natCast (n : ℕ) :
    ofInt? n = if n < 2 ^ 63 then some (.int (Int64.ofInt n)) else none := by
  have hlow : Int64.minValue.toInt = -2 ^ 63 := rfl
  have hhigh : Int64.maxValue.toInt = 2 ^ 63 - 1 := rfl
  have hfits : (Int64.minValue.toInt ≤ (n : ℤ) ∧ (n : ℤ) ≤ Int64.maxValue.toInt) ↔ n < 2 ^ 63 := by
    omega
  simp only [ofInt?, hfits]

namespace Operand

/-- Digits are an integer if it fits, and else the nearest binary64 number. -/
theorem ofDigits?_toDigits {n : ℕ} (h : n ≤ 2 ^ 64) :
    ofDigits? (String.ofList (Nat.toDigits 10 n)) =
      .ok (if n < 2 ^ 63 then .int (Int64.ofInt n) else .float (Binary64.ofInt n)) := by
  have habs : (n : ℤ).natAbs ≤ 2 ^ 64 := h
  have hdigits : Decimal.ofInt n = Nat.toDigits 10 n := rfl
  have hfinite := Binary64.isFinite_ofInt habs
  rw [ofDigits?, String.toList_ofList, ← hdigits, Decimal.readInt?_ofInt,
    Decimal.readFloat?_ofInt habs, Option.bind_some, Value.ofInt?_natCast]
  by_cases hfits : n < 2 ^ 63
  · rw [if_pos hfits, if_pos hfits]
  · rw [if_neg hfits, if_neg hfits]
    simp [Option.filter, hfinite]

/-- A sign is applied to what its digits are. -/
theorem ofExpr?_integerExpr {n : ℤ} (h : n.natAbs ≤ 2 ^ 64) :
    let digits : Value :=
      if n.natAbs < 2 ^ 63 then .int (Int64.ofInt n.natAbs) else .float (Binary64.ofInt n.natAbs)
    ofExpr? (integerExpr n) =
      .ok (if n < 0 then negative (.literal digits) else .literal digits) := by
  intro digits
  have hliteral : ofExpr? (.literal (Sql.integerLiteral n)) = .ok (.literal digits) := by
    simp only [ofExpr?, Sql.integerLiteral, ofLiteral?, ofDigits?_toDigits h]
    rfl
  unfold integerExpr
  split
  · rw [ofExpr?, hliteral]
    rfl
  · exact hliteral

/-- Every written integer of 64 binary digits is the literal that it writes, but for the least. -/
theorem ofExpr?_integerExpr_toInt (n : Int64) :
    ofExpr? (integerExpr n.toInt) =
      .ok (.literal (if n = Int64.minValue then .float (Binary64.ofInt n.toInt) else .int n)) := by
  have hlow := n.le_toInt
  have hhigh := n.toInt_lt
  have hleast {m : Int64} : m = Int64.minValue ↔ m.toInt = -2 ^ 63 := Int64.toInt_inj.symm
  rw [ofExpr?_integerExpr (natAbs_toInt_le n)]
  by_cases hn : n.toInt < 0
  · have habs : (n.toInt.natAbs : ℤ) = -n.toInt := by omega
    rw [if_pos hn, habs]
    by_cases hmin : n = Int64.minValue
    · have hlarge : ¬ n.toInt.natAbs < 2 ^ 63 := by
        have := hleast.1 hmin
        omega
      rw [if_pos hmin, if_neg hlarge, negative, ← Binary64.ofInt_neg (by omega), Int.neg_neg]
    · have hsmall : n.toInt.natAbs < 2 ^ 63 := by
        have := mt hleast.2 hmin
        omega
      have hne : -n ≠ Int64.minValue := fun h => hmin (by rw [← Int64.neg_neg (a := n), h]; rfl)
      rw [if_neg hmin, if_pos hsmall, Int64.ofInt_neg, Int64.ofInt_toInt, negative, if_neg hne,
        Int64.neg_neg]
  · have habs : (n.toInt.natAbs : ℤ) = n.toInt := by omega
    have hmin : n ≠ Int64.minValue := fun h => hn (by rw [h]; decide)
    rw [if_neg hn, if_pos (by omega), if_neg hmin, habs, Int64.ofInt_toInt]

end Operand

/-! ### Equations -/

/-- A character has at most four bytes. -/
theorem Text.utf8Len_le (cs : List Char) : String.utf8Len cs ≤ 4 * cs.length := by
  induction cs with
  | nil => exact Nat.le_refl 0
  | cons c cs ih =>
    have hc := Char.utf8Size_le_four c
    rw [String.utf8Len_cons, List.length_cons]
    omega

namespace Target

/-- The text of the equation of the column `x` with an integer. -/
def equationText (n : ℤ) : String := "x = " ++ String.ofList (Decimal.ofInt n)

/-- What stands before the integer. -/
def equationLexemes : List (List Char × Sql.Token) := [wordLexeme "x", (['='], .symbol "=")]

theorem toList_equationText (n : ℤ) :
    (equationText n).toList = spacedOut equationLexemes ++ Decimal.ofInt n := by
  simp [equationText, equationLexemes, spacedOut, wordLexeme]

theorem isLexeme_of_mem_equationLexemes : ∀ l ∈ equationLexemes, IsLexeme l.1 l.2 := by
  have hcolumn : IsLexeme (wordLexeme "x").1 (wordLexeme "x").2 :=
    Sql.isLexeme_wordLexeme (by decide +kernel)
  simp [equationLexemes, hcolumn, Sql.isLexeme_equals]

theorem trimmed_equationText (n : ℤ) : Text.trimmed (equationText n) = equationText n := by
  have hblank (c : Char) (hc : c ∈ Decimal.ofInt n) := Decimal.not_isBlank_of_mem_ofInt hc
  have hne : Text.trim (Decimal.ofInt n) ≠ [] := by
    rw [Text.trim_of_not_isBlank hblank]
    exact Decimal.ofInt_ne_nil n
  rw [← String.toList_inj, Text.toList_trimmed, toList_equationText, equationLexemes,
    Sql.trim_spacedOut (isLexeme_of_mem_equationLexemes _ List.mem_cons_self) _ hne,
    Text.trimEnd_of_not_isBlank hblank]

theorem utf8ByteSize_equationText {n : ℤ} (h : n.natAbs ≤ 2 ^ 64) :
    (equationText n).utf8ByteSize ≤ 100 := by
  have hlength := Decimal.length_ofInt_le h
  have hbytes := Text.utf8Len_le (equationText n).toList
  rw [← String.utf8ByteSize_ofList, String.ofList_toList, toList_equationText] at hbytes
  simp [equationLexemes, spacedOut, wordLexeme] at hbytes
  omega

theorem tokens?_equationText {n : ℤ} (h : n.natAbs ≤ 2 ^ 64) :
    tokens? (equationText n) = .ok (.word (.unquoted ['x']) :: .symbol "=" :: integerTokens n) := by
  have hscan := Sql.scan_spacedOut isLexeme_of_mem_equationLexemes (Sql.scan_ofInt n)
  rw [← toList_equationText] at hscan
  refine (tokens?_of_scan hscan).resolve_right ?_
  rintro ⟨fault, -, ⟨hlarge⟩ | ⟨htokens, hlarge⟩⟩
  · have hbytes := utf8ByteSize_equationText h
    have hlimit : Measure.bytes.limit = 65536 := rfl
    omega
  · rw [hscan] at htokens
    cases htokens
    have hcount : (integerTokens n).length ≤ 2 := by
      unfold integerTokens
      split <;> simp
    have hlimit : Measure.tokens.limit = 4096 := rfl
    rw [List.length_append, hlimit] at hlarge
    simp [equationLexemes] at hlarge
    omega

/-- An equation has the operand that its integer is. -/
theorem ofText?_equation {n : ℤ} (h : n.natAbs ≤ 2 ^ 64) {operand : Operand}
    (hoperand : Operand.ofExpr? (integerExpr n) = .ok operand) :
    ofText? (equationText n) =
      .ok (ofCondition (.compare .eq (.column ⟨none, "x"⟩) operand)) := by
  have hbare : startsStatement (equationText n).toList = false := by
    rw [toList_equationText]
    rfl
  have hname : (Sql.Word.unquoted ['x']).NamesColumn := ⟨by decide +kernel, by rfl⟩
  have hread : Sql.readExpr (.word (.unquoted ['x']) :: .symbol "=" :: integerTokens n) =
      .ok (.binary (.path [.ofWord (.unquoted ['x'])]) (.relation .eq) (integerExpr n), []) :=
    Sql.Rule.run_expr_equation hname n
  have hcolumn : Operand.ofExpr? (.path [.ofWord (.unquoted ['x'])]) =
      .ok (.column ⟨none, "x"⟩) := by
    decide +kernel
  have hne : (Text.trimmed (equationText n)).isEmpty = false := by
    rw [trimmed_equationText, Bool.eq_false_iff]
    intro hempty
    have hlist := congrArg String.toList (String.isEmpty_iff.1 hempty)
    rw [toList_equationText] at hlist
    cases hlist
  rw [ofText?_eq_bind hne, trimmed_equationText, tokens?_equationText h]
  simp only [hbare, bind, Except.bind, ofExprTokens?, hread, Condition.ofExpr?,
    Condition.Chain.ofExpr?, hcolumn, hoperand]
  rfl

/-- The equation with a written integer has the integer as its operand; with the least one it has
the binary64 number. -/
theorem ofText?_equationText (n : Int64) :
    ofText? (equationText n.toInt) =
      .ok (ofCondition (.compare .eq (.column ⟨none, "x"⟩)
        (.literal (if n = Int64.minValue then .float (Binary64.ofInt n.toInt) else .int n)))) :=
  ofText?_equation (natAbs_toInt_le n) (Operand.ofExpr?_integerExpr_toInt n)

/-- The least integer is read as a number that the next integer equals as well. -/
theorem ofText?_least :
    let least := Int64.minValue
    let read : Value := .float (Binary64.ofInt least.toInt)
    (ofText? "x = -9223372036854775808").map (·.condition) =
        .ok (some (.compare .eq (.column ⟨none, "x"⟩) (.literal read))) ∧
      read ≠ .int least ∧
      Relation.eq.outcome {} (.int (least + 1)) read = .satisfied ∧
      Relation.eq.outcome {} (.int (least + 1)) (.int least) ≠ .satisfied := by
  intro least read
  have htext : "x = -9223372036854775808" = equationText least.toInt := by decide +kernel
  have hread : Operand.ofExpr? (integerExpr least.toInt) = .ok (.literal read) := by
    decide +kernel
  refine ⟨?_, by decide⟩
  rw [htext, ofText?_equation (natAbs_toInt_le least) hread]
  rfl

end Target

end BranchDistance
