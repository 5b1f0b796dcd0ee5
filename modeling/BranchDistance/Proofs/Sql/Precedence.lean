import BranchDistance.Proofs.Sql.Statement

/-!
# Precedence

An expression is an operand and what follows it (`Rule.following`).  Tokens bind with some strength
if they are read as one operand by everything that binds less strongly, whatever comes after them
(`Binds`).

* The negation of what binds more strongly than `NOT` binds like any operand (`Binds.not`).
* A chain of operands that bind more strongly than the connective between them binds with the
  strength of the connective, and its operands are joined from left to right (`Binds.chain`).
-/

namespace BranchDistance.Sql

/-- The words between conditions, with their strengths. -/
inductive Joins : Connective → ℕ → Prop
  | and : Joins .and Strength.and
  | or : Joins .or Strength.or

/-- What may follow a condition: nothing, or a word that joins it to another. -/
inductive IsEnd : List Token → Prop
  | nil : IsEnd []
  | joined {op : Connective} {k : ℕ} (h : Joins op k) (ts : List Token) :
      IsEnd (.ofKeyword op.render :: ts)

theorem Joins.strengthAhead_eq {op : Connective} {k : ℕ} (h : Joins op k) (ts : List Token) :
    strengthAhead (.ofKeyword op.render :: ts) = k := by
  cases h <;> rfl

theorem IsEnd.strengthAhead_le {ts : List Token} (h : IsEnd ts) :
    strengthAhead ts ≤ Strength.and := by
  cases h with
  | nil => exact Nat.zero_le _
  | joined h ts =>
    rw [h.strengthAhead_eq]
    cases h <;> decide

/-- Further operands of a chain, each after the connective. -/
def Connective.further (op : Connective) (parts : List (List Token × Expr)) : List Token :=
  parts.flatMap fun p => .ofKeyword op.render :: p.1

/-- An expression with further operands joined to it, from left to right. -/
def Connective.joined (op : Connective) (left : Expr) (es : List Expr) : Expr :=
  es.foldl (fun left e => .binary left op e) left

/-- Further operands of a chain are followed by the connective or by what follows the chain. -/
theorem IsEnd.further {rest : List Token} {k : ℕ} (h : IsEnd rest) (hk : strengthAhead rest ≤ k)
    {op : Connective} (hop : Joins op k) (parts : List (List Token × Expr)) :
    IsEnd (op.further parts ++ rest) ∧ strengthAhead (op.further parts ++ rest) ≤ k := by
  cases parts with
  | nil => exact ⟨h, hk⟩
  | cons p parts => exact ⟨.joined hop _, Nat.le_of_eq (hop.strengthAhead_eq _)⟩

namespace Rule

variable {g : Grammar} {w : Word} {e : Expr} {ts us rest : List Token} {d k strength : ℕ}

/-! ### Operands and what follows them -/

/-- The operators after an operand that bind more strongly than `strength`. -/
def following (strength : ℕ) (e : Expr) : Rule Expr :=
  loop (fun e => do
    let ahead := strengthAhead (← ahead)
    if ahead ≤ strength then return .inr e else return .inl (← operator e ahead)) e

theorem run_expression_of_operand (h : leadingOperand.run g ts = .ok (e, rest)) :
    (expression strength).run g ts = (following strength e).run g rest := by
  unfold expression
  rw [run_bind, h]
  rfl

theorem run_following_of_le (h : strengthAhead ts ≤ strength) :
    (following strength e).run g ts = .ok (e, ts) :=
  run_loop_of_inr (by simp [h])

theorem run_following_of_lt {e' : Expr} (hlt : strength < strengthAhead ts)
    (h : (operator e (strengthAhead ts)).run g ts = .ok (e', rest))
    (hrest : rest.length < ts.length) :
    (following strength e).run g ts = (following strength e').run g rest := by
  refine run_loop_of_inl ?_ hrest
  simp [Nat.not_le.2 hlt, h]

theorem run_operand_ofDepth :
    (operand strength).run (Grammar.ofDepth (d + 1)) ts =
      (expression strength).run (Grammar.ofDepth d) ts := by
  cases d <;> rfl

/-- Before an end there is no collation. -/
theorem run_collated (h : IsEnd ts) : (collated e).run g ts = .ok (e, ts) := by
  cases h with
  | nil => simp [collated]
  | joined hop ts => cases hop <;> simp [collated, Connective.render]

/-- A word that is no type does not introduce a literal. -/
theorem run_typedLiteral_word (leading : Rule Expr) (hw : w.keyword ∉ typeKeywords)
    (hsign : ∀ t ∈ ts.head?, ∀ s ∈ [".", "(", "["], t.isSign s = false) :
    (attempt (typedLiteral leading)).run g (.word w :: ts) = .ok (none, .word w :: ts) := by
  have hpath : path.run g (.word w :: ts) = .ok ([.ofWord w], ts) :=
    run_path_word fun t ht => hsign t ht "." (by simp)
  have hmodifiers : modifiers?.run g ts = .ok ("", ts) := by
    cases ts with
    | nil => simp [modifiers?]
    | cons t ts => simp [modifiers?, hsign t rfl "(" (by simp)]
  have hbrackets (s : TypeStep) : (brackets s).run g ts = .ok (s, ts) := by
    refine run_loop_of_inr ?_
    cases ts with
    | nil => simp
    | cons t ts => simp [hsign t rfl "[" (by simp)]
  have htype : ∃ text, typeName.run g (.word w :: ts) = .ok (.custom text, ts) := by
    rw [typeName, run_bind, typeStep, run_nest]
    simp [hw, hpath, hmodifiers, hbrackets]
  obtain ⟨text, htype⟩ := htype
  simp [attempt, typedLiteral, htype]

end Rule

open Rule

/-! ### Binding -/

/-- With the grammar of any depth from `d` on, some tokens are read as one operand by everything
that binds less strongly than `k`.  They start with a word that is no operator. -/
structure Binds (d k : ℕ) (us : List Token) (e : Expr) : Prop where
  starts : ∃ w ts, us = .word w :: ts ∧ w.keyword ∉ ["ANY", "ALL", "SOME", "EXISTS"]
  reads : ∀ d' ≥ d, ∀ strength < k, ∀ rest, IsEnd rest → strengthAhead rest < k →
    (expression strength).run (Grammar.ofDepth d') (us ++ rest) =
      (following strength e).run (Grammar.ofDepth d') rest

namespace Binds

variable {d d' k k' : ℕ} {us rest : List Token} {e : Expr} {op : Connective}

theorem mono (h : Binds d k us e) (hle : d ≤ d') : Binds d' k us e where
  starts := h.starts
  reads d'' hd := h.reads d'' (Nat.le_trans hle hd)

/-- What binds more strongly than its surroundings is an operand of theirs. -/
theorem run_operand (h : Binds d k us e) (hd : d < d') {strength : ℕ} (hk : strength < k)
    (hrest : IsEnd rest) (hstrength : strengthAhead rest ≤ strength) :
    (operand strength).run (Grammar.ofDepth d') (us ++ rest) = .ok (e, rest) := by
  obtain ⟨n, rfl⟩ := Nat.exists_eq_add_of_lt hd
  rw [run_operand_ofDepth, h.reads (d + n) (Nat.le_add_right d n) strength hk rest hrest
    (Nat.lt_of_le_of_lt hstrength hk), run_following_of_le hstrength]

theorem not (h : Binds d k us e) (hk : Strength.not < k) :
    Binds (d + 1) k' (.ofKeyword "NOT" :: us) (.leading .not e) where
  starts := ⟨_, _, rfl, by decide⟩
  reads d' hd strength _ rest hrest _ := by
    obtain ⟨w, ts, rfl, hw⟩ := h.starts
    have hword : w.keyword ≠ "EXISTS" := fun heq => hw (by simp [heq])
    have hoperand := h.run_operand (Nat.lt_of_succ_le hd) hk hrest
      (Nat.le_trans hrest.strengthAhead_le (by decide))
    have htyped (leading : Rule Expr) :
        (attempt (typedLiteral leading)).run (Grammar.ofDepth d')
          (.word ⟨"NOT", none, "NOT"⟩ :: .word w :: (ts ++ rest)) =
            .ok (none, .word ⟨"NOT", none, "NOT"⟩ :: .word w :: (ts ++ rest)) :=
      run_typedLiteral_word leading (by decide +kernel) (by simp)
    apply run_expression_of_operand
    rw [List.cons_append] at hoperand
    rw [leadingOperand, run_nest]
    simp [Token.ofKeyword, htyped, bareOperand, afterWord, hword, hoperand, run_collated hrest]

/-- A connective takes what binds more strongly as its right operand. -/
theorem run_operator (h : Binds d k' us e) (hop : Joins op k) (hk : k < k') (hd : d < d')
    (hrest : IsEnd rest) (hstrength : strengthAhead rest ≤ k) (left : Expr) :
    (operator left k).run (Grammar.ofDepth d') (.ofKeyword op.render :: us ++ rest) =
      .ok (.binary left op e, rest) := by
  have hoperand := h.run_operand hd hk hrest hstrength
  obtain ⟨w, ts, rfl, hw⟩ := h.starts
  have hquantifier : (oneOf? ["ANY", "ALL", "SOME"]).run (Grammar.ofDepth d')
      (.word w :: ts ++ rest) = .ok (none, .word w :: ts ++ rest) :=
    run_oneOf?_of_notMem fun hmem => hw (List.mem_append_left ["EXISTS"] hmem)
  have hahead : connectiveAhead?.run (Grammar.ofDepth d')
      (.ofKeyword op.render :: .word w :: ts ++ rest) = .ok (some op, .word w :: ts ++ rest) := by
    cases hop <;> rfl
  rw [operator, run_bind, hahead]
  simp only [afterConnective, run_bind, hquantifier, hoperand, run_pure]

/-- The operands of a chain are joined from left to right. -/
theorem run_following {parts : List (List Token × Expr)}
    (hparts : ∀ p ∈ parts, Binds d k' p.1 p.2) (hop : Joins op k) (hk : k < k') (hd : d < d')
    (hrest : IsEnd rest) (hahead : strengthAhead rest ≤ k) {strength : ℕ} (hlt : strength < k)
    (left : Expr) :
    (following strength left).run (Grammar.ofDepth d') (op.further parts ++ rest) =
      (following strength (op.joined left (parts.map (·.2)))).run (Grammar.ofDepth d') rest := by
  induction parts generalizing left with
  | nil => rfl
  | cons p parts ih =>
    obtain ⟨hp, hparts⟩ := List.forall_mem_cons.1 hparts
    obtain ⟨hend, hnext⟩ := hrest.further hahead hop parts
    have htokens : op.further (p :: parts) ++ rest =
        .ofKeyword op.render :: p.1 ++ (op.further parts ++ rest) := by
      simp [Connective.further]
    have hstrength :
        strengthAhead (.ofKeyword op.render :: p.1 ++ (op.further parts ++ rest)) = k :=
      hop.strengthAhead_eq _
    rw [List.map_cons, Connective.joined, List.foldl_cons, ← Connective.joined, ← ih hparts,
      htokens]
    apply run_following_of_lt
    · rw [hstrength]
      exact hlt
    · rw [hstrength]
      exact hp.run_operator hop hk hd hend hnext left
    · simp only [List.cons_append, List.length_cons, List.length_append]
      omega

/-- A chain binds with the strength of its connective. -/
theorem chain (h : Binds d k' us e) {parts : List (List Token × Expr)}
    (hparts : ∀ p ∈ parts, Binds d k' p.1 p.2) (hop : Joins op k) (hk : k < k') :
    Binds (d + 1) k (us ++ op.further parts) (op.joined e (parts.map (·.2))) where
  starts := by
    obtain ⟨w, ts, rfl, hw⟩ := h.starts
    exact ⟨w, _, rfl, hw⟩
  reads d' hd strength hlt rest hrest hahead := by
    obtain ⟨hend, hnext⟩ := hrest.further (Nat.le_of_lt hahead) hop parts
    rw [List.append_assoc, h.reads d' (Nat.le_of_succ_le hd) strength (Nat.lt_trans hlt hk) _ hend
      (Nat.lt_of_le_of_lt hnext hk)]
    exact run_following hparts hop hk hd hrest (Nat.le_of_lt hahead) hlt e

/-- All tokens of a text are one expression. -/
theorem run_expr (h : Binds d k us e) (hk : 0 < k) (hd : d < d') :
    expr.run (Grammar.ofDepth d') us = .ok (e, []) := by
  have hoperand := h.run_operand hd hk .nil (Nat.le_refl 0)
  rwa [List.append_nil] at hoperand

end Binds

end BranchDistance.Sql
