import BranchDistance.Proofs.Decimal.Integer
import BranchDistance.Proofs.Sql.Precedence
import BranchDistance.Proofs.Sql.Scan

/-!
# Integers in condition texts

A written integer at the end of a text is one number, after a sign of its own if it is negative
(`scan_ofInt`), and it is read as the operand that these tokens form
(`Rule.run_expression_integer`).  A comparison of a column with it binds as its sign does
(`binds_comparison`).
-/

namespace BranchDistance.Sql

/-- The digits of an integer as a literal. -/
def integerLiteral (n : ℤ) : Literal := .number (String.ofList (Nat.toDigits 10 n.natAbs)) false

/-- The tokens of an integer. -/
def integerTokens (n : ℤ) : List Token :=
  let digits := .number (String.ofList (Nat.toDigits 10 n.natAbs)) false
  if n < 0 then [.symbol "-", digits] else [digits]

/-- The expression that an integer is. -/
def integerExpr (n : ℤ) : Expr :=
  if n < 0 then .leading .minus (.literal (integerLiteral n)) else .literal (integerLiteral n)

theorem integerTokens_natCast (n : ℕ) :
    integerTokens n = [.number (String.ofList (Nat.toDigits 10 n)) false] := by
  unfold integerTokens
  exact if_neg (Int.not_lt.2 (Int.natCast_nonneg n))

/-! ### Scanning -/

theorem mem_digits_of_isDigit {c : Char} (h : c.isDigit = true) :
    c ∈ ['0', '1', '2', '3', '4', '5', '6', '7', '8', '9'] := by
  simp only [Char.isDigit, Bool.and_eq_true, decide_eq_true_eq, ge_iff_le,
    UInt32.le_iff_toNat_le] at h
  obtain ⟨hlow, hhigh⟩ : 48 ≤ c.toNat ∧ c.toNat ≤ 57 := h
  rw [← Char.ofNat_toNat c]
  generalize c.toNat = n at hlow hhigh
  interval_cases n <;> decide

/-- A digit starts a number. -/
theorem scanOne_of_isDigit {c : Char} (h : c.isDigit = true) (rest : List Char) :
    scanOne c rest = scanNumber (c :: rest) := by
  have hdigits : ['0', '1', '2', '3', '4', '5', '6', '7', '8', '9'].all
      (fun c => isWordStart c == false && Text.isBlank c == false) = true := by decide +kernel
  have hc := List.all_eq_true.1 hdigits c (mem_digits_of_isDigit h)
  rw [Bool.and_eq_true, beq_iff_eq, beq_iff_eq] at hc
  obtain ⟨hword, hblank⟩ := hc
  delta scanOne
  exact (if_neg (Bool.eq_false_iff.1 hword)).trans
    ((if_neg (Bool.eq_false_iff.1 hblank)).trans (if_pos (.inl h)))

/-- Digits up to a blank, or up to the end of a text, are one number. -/
theorem scanNumber_digits {ds rest : List Char} (h : ∀ d ∈ ds, d.isDigit = true) (hne : ds ≠ [])
    (hrest : ∀ c ∈ rest.head?, c = ' ') :
    scanNumber (ds ++ rest) = some (some (.number (String.ofList ds) false), rest) := by
  have hpoint : ds ≠ ['.'] := by
    rintro rfl
    exact absurd (h '.' List.mem_cons_self) (by decide)
  have hwhole : (ds ++ rest).takeWhile Char.isDigit = ds := by
    rw [List.takeWhile_append_of_pos h]
    cases rest with
    | nil => simp
    | cons c rest =>
      rw [hrest c rfl, List.takeWhile_cons_of_neg (by decide), List.append_nil]
  rcases rest with - | ⟨c, rest⟩
  · rw [List.append_nil] at hwhole ⊢
    simp [scanNumber, hwhole, hpoint, takeExponent]
  · obtain rfl := hrest c rfl
    simp [scanNumber, hwhole, hpoint, takeExponent]

/-- A minus before a digit is a sign. -/
theorem scanOne_minus {c : Char} (h : c.isDigit = true) (rest : List Char) :
    scanOne '-' (c :: rest) = some (some (.symbol "-"), c :: rest) := by
  have hdigits := mem_digits_of_isDigit h
  simp only [List.mem_cons, List.not_mem_nil, or_false] at hdigits
  rcases hdigits with rfl | rfl | rfl | rfl | rfl | rfl | rfl | rfl | rfl | rfl <;> rfl

theorem scan_toDigits (n : ℕ) :
    scan (Nat.toDigits 10 n) = some [.number (String.ofList (Nat.toDigits 10 n)) false] := by
  obtain ⟨c, cs, hdigits, hc, hcs⟩ := Decimal.exists_toDigits_eq n
  have hnumber : scanNumber (c :: cs ++ []) =
      some (some (.number (String.ofList (c :: cs)) false), []) :=
    scanNumber_digits (List.forall_mem_cons.2 ⟨hc, hcs⟩) (List.cons_ne_nil c cs) (by simp)
  rw [List.append_nil] at hnumber
  rw [hdigits, scan, List.length_cons, scanFrom, scanOne_of_isDigit hc, hnumber]
  cases cs <;> rfl

theorem isLexeme_toDigits (n : ℕ) :
    IsLexeme (Nat.toDigits 10 n) (.number (String.ofList (Nat.toDigits 10 n)) false) := by
  obtain ⟨c, cs, hdigits, hc, hcs⟩ := Decimal.exists_toDigits_eq n
  rw [hdigits]
  refine ⟨c, cs, rfl, fun rest => ?_⟩
  rw [scanOne_of_isDigit hc]
  exact scanNumber_digits (List.forall_mem_cons.2 ⟨hc, hcs⟩) (List.cons_ne_nil c cs) (by simp)

theorem scan_ofInt (n : ℤ) : scan (Decimal.ofInt n) = some (integerTokens n) := by
  unfold Decimal.ofInt integerTokens
  split
  · obtain ⟨c, cs, hdigits, hc, -⟩ := Decimal.exists_toDigits_eq n.natAbs
    have hrest := scanFrom_of_scan (scan_toDigits n.natAbs) le_rfl [.symbol "-"]
    rw [hdigits] at hrest ⊢
    rw [scan, List.length_cons, scanFrom, scanOne_minus hc]
    exact hrest
  · exact scan_toDigits n.natAbs

/-! ### Reading -/

/-- A word that is read as the name of a column: it is no type, and no keyword that introduces an
operand. -/
structure Word.NamesColumn (w : Word) : Prop where
  not_type : w.keyword ∉ Rule.typeKeywords
  starts_path : Rule.afterWord w = Rule.pathOrCall w

namespace Rule

variable {g : Grammar} {w : Word} {ts rest : List Token} {strength d : ℕ}

/-- A written integer is an operand, wherever it stands. -/
theorem run_expression_integer (n : ℤ) (hend : IsEnd rest)
    (hahead : strengthAhead rest ≤ strength) :
    (expression strength).run (Grammar.ofDepth (d + 1)) (integerTokens n ++ rest) =
      .ok (integerExpr n, rest) := by
  have hnumber {g : Grammar} {strength : ℕ} (hahead : strengthAhead rest ≤ strength)
      (digits : String) : (expression strength).run g (.number digits false :: rest) =
        .ok (.literal (.number digits false), rest) := by
    apply run_expression_of_leadingOperand
    · rw [leadingOperand, run_nest]
      simp [bareOperand, run_collated hend]
    · exact hahead
  unfold integerTokens integerExpr
  split
  · apply run_expression_of_leadingOperand
    · have hoperand : (operand Strength.product).run (Grammar.ofDepth (d + 1))
          (.number (String.ofList (Nat.toDigits 10 n.natAbs)) false :: rest) =
            .ok (.literal (integerLiteral n), rest) := by
        rw [run_operand_ofDepth]
        exact hnumber (hend.strengthAhead_le.trans (by decide)) _
      rw [leadingOperand, run_nest]
      simp [bareOperand, hoperand, run_collated hend]
    · exact hahead
  · exact hnumber hahead _

/-- A name before the sign of a relation. -/
theorem run_leadingOperand_word (hw : w.NamesColumn) (r : Relation) :
    leadingOperand.run g (.word w :: .symbol r.symbol :: ts) =
      .ok (.path [.ofWord w], .symbol r.symbol :: ts) := by
  have htyped (leading : Rule Expr) :
      (attempt (typedLiteral leading)).run g (.word w :: .symbol r.symbol :: ts) =
        .ok (none, .word w :: .symbol r.symbol :: ts) := by
    apply run_typedLiteral_word leading hw.not_type
    cases r <;> simp [Relation.symbol]
  have hpath : (pathOrCall w).run g (.symbol r.symbol :: ts) =
      .ok (.path [.ofWord w], .symbol r.symbol :: ts) := by
    cases r <;> rfl
  rw [leadingOperand, run_nest]
  simp [htyped, bareOperand, hw.starts_path, hpath, collated]

/-- The sign of a relation between an expression and an integer. -/
theorem run_operator_relation (e : Expr) (r : Relation) (n : ℤ) (hend : IsEnd rest) :
    (operator e Strength.comparison).run (Grammar.ofDepth (d + 2))
        (.symbol r.symbol :: (integerTokens n ++ rest)) =
      .ok (.binary e (.relation r) (integerExpr n), rest) := by
  have hoperand : (operand Strength.comparison).run (Grammar.ofDepth (d + 2))
      (integerTokens n ++ rest) = .ok (integerExpr n, rest) := by
    rw [run_operand_ofDepth]
    exact run_expression_integer n hend (hend.strengthAhead_le.trans (by decide))
  have hquantifier (ks : List String) : (oneOf? ks).run (Grammar.ofDepth (d + 2))
      (integerTokens n ++ rest) = .ok (none, integerTokens n ++ rest) := by
    unfold integerTokens
    split <;> rfl
  have hahead : connectiveAhead?.run (Grammar.ofDepth (d + 2))
      (.symbol r.symbol :: (integerTokens n ++ rest)) =
        .ok (some (.relation r), integerTokens n ++ rest) := by
    cases r <;> rfl
  rw [operator, run_bind, hahead]
  simp only [afterConnective, run_bind, hquantifier, hoperand, run_pure]

/-- A comparison of a column with an integer, and what follows it. -/
theorem run_expression_comparison (hw : w.NamesColumn) (r : Relation) (n : ℤ) (hend : IsEnd rest)
    (hlt : strength < Strength.comparison) :
    (expression strength).run (Grammar.ofDepth (d + 2))
        (.word w :: .symbol r.symbol :: (integerTokens n ++ rest)) =
      (following strength (.binary (.path [.ofWord w]) (.relation r) (integerExpr n))).run
        (Grammar.ofDepth (d + 2)) rest := by
  have hahead : strengthAhead (.symbol r.symbol :: (integerTokens n ++ rest)) =
      Strength.comparison := by
    cases r <;> rfl
  rw [run_expression_of_operand (run_leadingOperand_word hw r)]
  apply run_following_of_lt
  · rw [hahead]
    exact hlt
  · rw [hahead]
    exact run_operator_relation _ r n hend
  · simp only [List.length_cons, List.length_append]
    omega

/-- An equation between a column and an integer. -/
theorem run_expr_equation (hw : w.NamesColumn) (n : ℤ) :
    expr.run (Grammar.ofDepth (d + 3)) (.word w :: .symbol "=" :: integerTokens n) =
      .ok (.binary (.path [.ofWord w]) (.relation .eq) (integerExpr n), []) := by
  have hlt : 0 < Strength.comparison := by decide
  have hread := run_expression_comparison (d := d) hw .eq n .nil hlt
  rw [List.append_nil, run_following_of_le (Nat.le_refl 0)] at hread
  exact hread

end Rule

/-- A comparison of a column with an integer binds like its sign. -/
theorem binds_comparison {w : Word} (hw : w.NamesColumn)
    (hstart : w.keyword ∉ ["ANY", "ALL", "SOME", "EXISTS"]) (r : Relation) (n : ℤ) :
    Binds 2 Strength.comparison (.word w :: .symbol r.symbol :: integerTokens n)
      (.binary (.path [.ofWord w]) (.relation r) (integerExpr n)) where
  starts := ⟨w, _, rfl, hstart⟩
  reads d hd strength hlt rest hrest _ := by
    obtain ⟨d, rfl⟩ := Nat.exists_eq_add_of_le' hd
    exact Rule.run_expression_comparison hw r n hrest hlt

end BranchDistance.Sql
