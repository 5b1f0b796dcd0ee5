import BranchDistance.Sql.Statement

/-!
# The grammar to a depth

The rules for expressions, queries and statements refer to each other.  `Grammar.ofDepth d` ties
them together for texts in which at most `d` of them nest.  A greater depth gives the same result
wherever the smaller one suffices (`Grammar.ofDepth_le`).
-/

namespace BranchDistance.Sql

namespace Grammar

/-- The grammar of texts in which at most the given number of expressions, queries and statements
nest. -/
def ofDepth : Nat → Grammar
  | 0 => ⟨false, fun _ _ _ => .error .tooDeep, fun _ _ => .error .tooDeep,
      fun _ => .error .tooDeep⟩
  | d + 1 =>
    ⟨false,
      fun b strength ts => (Rule.expression strength).run { ofDepth d with hierarchical := b } ts,
      fun b ts => Rule.queryRule.run { ofDepth d with hierarchical := b } ts,
      fun ts => Rule.statement.run (ofDepth d) ts⟩

theorem ofDepth_le_succ (d : Nat) : (ofDepth d).Le (ofDepth (d + 1)) := by
  induction d with
  | zero => exact ⟨rfl, fun _ _ _ => .inl rfl, fun _ _ => .inl rfl, fun _ => .inl rfl⟩
  | succ d ih =>
    exact ⟨rfl, fun b strength ts => (Rule.expression strength).mono (ih.within b) ts,
      fun b ts => Rule.queryRule.mono (ih.within b) ts, fun ts => Rule.statement.mono ih ts⟩

/-- A deeper grammar reads all that a shallower one reads, with the same result. -/
theorem ofDepth_le {d e : Nat} (h : d ≤ e) : (ofDepth d).Le (ofDepth e) := by
  induction h with
  | refl => exact .refl _
  | step _ ih => exact ih.trans (ofDepth_le_succ _)

end Grammar

/-- How many expressions, queries and statements may nest. -/
def depthLimit : Nat := 50

/-- Reads an expression from the start of a list of tokens. -/
def readExpr (ts : List Token) : Step Expr := Rule.expr.run (Grammar.ofDepth depthLimit) ts

/-- Reads the statements of a text. -/
def readStatements (ts : List Token) : Step (List Statement) :=
  Rule.statements.run (Grammar.ofDepth depthLimit) ts

end BranchDistance.Sql
