import BranchDistance.Proofs.Target.Chain
import BranchDistance.Proofs.Target.Integer

/-!
# Precedence in targets

Comparisons, some of them negated, are joined by `AND` to groups and the groups by `OR`.  The text
is read as the disjunction of the groups, unless it is too large (`Target.ofText?_groups`).

Both levels are one argument: parts of a condition text with all that is known of their reading
(`Part.IsRead`) are joined by a connective that binds less strongly than they do
(`Part.IsRead.joined`).
-/

namespace BranchDistance

open Sql (Binds Connective Expr IsLexeme Joins Token integerExpr integerTokens keywordLexeme
  wordLexeme)

/-! ### Chains of expressions -/

namespace Sql

namespace Expr

theorem operands_of_not_joined {op : Connective} {e : Expr} (h : e.isJoinedBy op = false) :
    e.operands op = [e] := by
  fun_cases operands op e with
  | case1 left right => simp [isJoinedBy] at h
  | case2 left op' right hne => rfl
  | case3 e hne => rfl

theorem operands_joined {op : Connective} {es : List Expr} (h : ∀ e ∈ es, e.isJoinedBy op = false)
    (left : Expr) : (op.joined left es).operands op = left.operands op ++ es := by
  induction es generalizing left with
  | nil => simp [Connective.joined]
  | cons e es ih =>
    obtain ⟨he, hes⟩ := List.forall_mem_cons.1 h
    have hstep : (Expr.binary left op e).operands op = left.operands op ++ [e] := by
      rw [operands, if_pos rfl, operands_of_not_joined he]
    rw [Connective.joined, List.foldl_cons, ← Connective.joined, ih hes, hstep, List.append_assoc]
    rfl

end Expr

theorem Connective.exists_joined_eq (op : Connective) (left e : Expr) (es : List Expr) :
    ∃ left' right, op.joined left (e :: es) = .binary left' op right := by
  induction es generalizing left e with
  | nil => exact ⟨left, e, rfl⟩
  | cons e' es ih => exact ih (.binary left op e) e'

end Sql

namespace Condition

/-- A list of conditions as one, unless it has only one condition. -/
def flat (make : List Condition → Condition) : List Condition → Condition
  | [c] => c
  | cs => make cs

/-- Operands that are joined from left to right are the parts of one condition. -/
theorem ofExpr?_joined {op : Connective} {make : List Condition → Chain}
    (h : op.chain? = some make) {e : Expr} {es : List Expr}
    (hjoined : ∀ x ∈ e :: es, x.isJoinedBy op = false) {cs : List Condition}
    (hcs : List.Forall₂ (fun x c => ofExpr? x = .ok c) (e :: es) cs) :
    ofExpr? (op.joined e es) = .ok (flat (fun cs => (make cs).condition) cs) := by
  obtain ⟨he, hes⟩ := List.forall_mem_cons.1 hjoined
  cases es with
  | nil =>
    cases hcs with
    | cons hc hnil =>
      cases hnil
      exact hc
  | cons e' es =>
    have hoperands := Expr.operands_joined hes e
    obtain ⟨left, right, hbinary⟩ := op.exists_joined_eq e e' es
    rw [Expr.operands_of_not_joined he, List.singleton_append, hbinary] at hoperands
    rw [hbinary, ofExpr?_chain h, hoperands, mapM_eq_ok_iff.2 hcs]
    cases hcs with
    | cons hc hcs =>
      cases hcs with
      | cons hc' hcs => rfl

theorem ofExpr?_not {e : Expr} {c : Condition} (h : ofExpr? e = .ok c) :
    ofExpr? (.leading .not e) = .ok (.not c) := by
  obtain ⟨chain, hchain, ⟨⟩⟩ := bind_eq_ok_iff.1 h
  rw [ofExpr?, Chain.ofExpr?, hchain]
  rfl

end Condition

namespace Target

/-! ### Texts of lexemes -/

/-- A text of lexemes with single blanks between them, of which the last is a number. -/
inductive Written : List Char → List Token → Prop
  | number (n : ℕ) :
      Written (Nat.toDigits 10 n) [.number (String.ofList (Nat.toDigits 10 n)) false]
  | lexeme {cs cs' : List Char} {t : Token} {ts : List Token} (h : IsLexeme cs t)
      (hrest : Written cs' ts) : Written (cs ++ ' ' :: cs') (t :: ts)

namespace Written

variable {cs cs' : List Char} {ts ts' : List Token}

theorem scan (h : Written cs ts) : Sql.scan cs = some ts := by
  induction h with
  | number n => exact Sql.scan_toDigits n
  | lexeme h hrest ih => exact h.scan ih

/-- Two texts with a lexeme between them. -/
theorem join (h : Written cs ts) {l : List Char × Token} (hl : IsLexeme l.1 l.2)
    (h' : Written cs' ts') : Written (cs ++ ' ' :: (l.1 ++ ' ' :: cs')) (ts ++ l.2 :: ts') := by
  induction h with
  | number n => exact .lexeme (Sql.isLexeme_toDigits n) (.lexeme hl h')
  | lexeme hfirst hrest ih =>
    rw [List.append_assoc]
    exact .lexeme hfirst ih

theorem exists_cons (h : Written cs ts) : ∃ c tail, cs = c :: tail ∧ Text.isBlank c = false := by
  have hlexeme {cs : List Char} {t : Token} (h : IsLexeme cs t) (rest : List Char) :
      ∃ c tail, cs ++ rest = c :: tail ∧ Text.isBlank c = false := by
    obtain ⟨c, tail, rfl, -⟩ := id h
    exact ⟨c, tail ++ rest, rfl, h.not_isBlank⟩
  cases h with
  | number n =>
    have hdigits := hlexeme (Sql.isLexeme_toDigits n) []
    rwa [List.append_nil] at hdigits
  | lexeme h hrest => exact hlexeme h _

/-- There are no blanks at the ends. -/
theorem trim (h : Written cs ts) : Text.trim cs = cs := by
  obtain ⟨c, tail, hcs, hc⟩ := h.exists_cons
  have hstart : Text.trimStart cs = cs := by
    rw [hcs]
    exact Text.trimStart_of_not_isBlank hc tail
  rw [Text.trim, hstart]
  clear hstart hcs
  induction h with
  | number n =>
    apply Text.trimEnd_of_not_isBlank
    intro d hd
    exact Decimal.not_isBlank_of_mem_ofInt (n := n) hd
  | @lexeme cs cs' t ts h hrest ih =>
    obtain ⟨d, tail', hcs', hd⟩ := hrest.exists_cons
    have hne : Text.trimEnd cs' ≠ [] := by
      rw [ih, hcs']
      exact List.cons_ne_nil d tail'
    have hsplit : cs ++ ' ' :: cs' = (cs ++ [' ']) ++ cs' := by simp
    rw [hsplit, Text.trimEnd_append hne, ih]

end Written

/-! ### Parts of a condition text -/

/-- A part of a condition text: how it is written, and the tokens, the expression and the condition
as which it is read. -/
structure Part where
  text : String
  tokens : List Token
  expr : Expr
  condition : Condition

namespace Part

/-- A part is read as it says, in every surrounding that binds less strongly than `k`. -/
structure IsRead (d k : ℕ) (p : Part) : Prop where
  written : Written p.text.toList p.tokens
  /-- Whatever follows, the text does not start like a statement. -/
  bare : ∀ rest, startsStatement (p.text.toList ++ rest) = false
  binds : Binds d k p.tokens p.expr
  /-- It is no chain of a connective that binds less strongly. -/
  single : ∀ op j, Joins op j → j < k → p.expr.isJoinedBy op = false
  condition : Condition.ofExpr? p.expr = .ok p.condition

/-- Parts with a connective between them. -/
def joined (op : Connective) (make : List Condition → Condition) (p : Part) (ps : List Part) :
    Part where
  text := String.intercalate (" " ++ op.render ++ " ") ((p :: ps).map text)
  tokens := p.tokens ++ op.further (ps.map fun p => (p.tokens, p.expr))
  expr := op.joined p.expr (ps.map expr)
  condition := Condition.flat make ((p :: ps).map condition)

/-- The negation of a part. -/
def negation (p : Part) : Part where
  text := "NOT " ++ p.text
  tokens := .ofKeyword "NOT" :: p.tokens
  expr := .leading .not p.expr
  condition := .not p.condition

variable {d d' k k' : ℕ} {p : Part} {ps : List Part} {op : Connective}

theorem IsRead.mono (h : IsRead d k p) (hle : d ≤ d') : IsRead d' k p :=
  { h with binds := h.binds.mono hle }

theorem IsRead.negation (h : IsRead d k p) (hk : Sql.Strength.not < k) :
    IsRead (d + 1) k' p.negation where
  written := by
    have hlexeme : IsLexeme (keywordLexeme "NOT").1 (keywordLexeme "NOT").2 :=
      Sql.isLexeme_keywordLexeme (by decide)
    simpa [Part.negation, keywordLexeme] using Written.lexeme hlexeme h.written
  bare rest := by
    rw [Part.negation, String.toList_append]
    rfl
  binds := h.binds.not hk
  single op j hop hj := rfl
  condition := Condition.ofExpr?_not h.condition

theorem written_joined (h : ∀ q ∈ p :: ps, Written q.text.toList q.tokens) (hop : Joins op k)
    (make : List Condition → Condition) :
    Written (joined op make p ps).text.toList (joined op make p ps).tokens := by
  have hlexeme : IsLexeme (keywordLexeme op.render).1 (keywordLexeme op.render).2 := by
    cases hop <;> exact Sql.isLexeme_keywordLexeme (by decide)
  induction ps generalizing p with
  | nil =>
    have hp := h p (by simp)
    simpa [joined, Connective.further, String.intercalate_singleton] using hp
  | cons q ps ih =>
    obtain ⟨hp, hps⟩ := List.forall_mem_cons.1 h
    have hjoined := hp.join hlexeme (ih hps)
    simpa [joined, Connective.further, String.intercalate_cons_cons, keywordLexeme] using hjoined

theorem map_map_eq {α β γ : Type} {f : β → γ} {g : α → β} {f' : α → γ} (h : ∀ a, f (g a) = f' a)
    (as : List α) : (as.map g).map f = as.map f' := by
  rw [List.map_map]
  exact List.map_congr_left fun a _ => h a

theorem length_tokens_joined (op : Connective) (make : List Condition → Condition) (p : Part)
    (ps : List Part) : (joined op make p ps).tokens.length + 1 =
      ((p :: ps).map fun q => q.tokens.length + 1).sum := by
  have hfurther : (op.further (ps.map fun p => (p.tokens, p.expr))).length =
      (ps.map fun q => q.tokens.length + 1).sum := by
    induction ps with
    | nil => rfl
    | cons q ps ih =>
      have htokens : op.further ((q :: ps).map fun p => (p.tokens, p.expr)) =
          .ofKeyword op.render :: q.tokens ++ op.further (ps.map fun p => (p.tokens, p.expr)) := rfl
      rw [htokens, List.length_append, ih, List.length_cons, List.map_cons, List.sum_cons]
  simp only [joined, List.length_append, hfurther, List.map_cons, List.sum_cons]
  omega

/-- Parts that bind more strongly than a connective are joined by it. -/
theorem IsRead.joined (h : ∀ q ∈ p :: ps, IsRead d k' q) (hop : Joins op k) (hk : k < k')
    {make : List Condition → Condition.Chain} (hmake : op.chain? = some make) :
    IsRead (d + 1) k (joined op (fun cs => (make cs).condition) p ps) where
  written := written_joined (fun q hq => (h q hq).written) hop _
  bare rest := by
    have hbare := (h p List.mem_cons_self).bare
    cases ps with
    | nil => simpa [Part.joined, String.intercalate_singleton] using hbare rest
    | cons q ps =>
      simpa [Part.joined, String.intercalate_cons_cons] using hbare _
  binds := by
    obtain ⟨hp, hps⟩ := List.forall_mem_cons.1 h
    have hparts : ∀ part ∈ ps.map fun p => (p.tokens, p.expr), Binds d k' part.1 part.2 := by
      simpa using fun q hq => (hps q hq).binds
    have hchain := hp.binds.chain hparts hop hk
    simpa [Part.joined, Function.comp_def] using hchain
  single op' j hop' hj := by
    cases ps with
    | nil => exact (h p List.mem_cons_self).single op' j hop' (hj.trans hk)
    | cons q ps =>
      obtain ⟨left, right, hbinary⟩ := op.exists_joined_eq p.expr q.expr (ps.map expr)
      have hne : op ≠ op' := by
        rintro rfl
        cases hop <;> cases hop' <;> exact absurd hj (by decide)
      change (op.joined p.expr (q.expr :: ps.map expr)).isJoinedBy op' = false
      rw [hbinary]
      exact decide_eq_false hne
  condition := by
    have hjoined : ∀ x ∈ (p :: ps).map expr, x.isJoinedBy op = false := by
      simpa using fun q hq => (h q hq).single op k hop hk
    have hcs : List.Forall₂ (fun x c => Condition.ofExpr? x = .ok c) ((p :: ps).map expr)
        ((p :: ps).map Part.condition) := by
      rw [List.forall₂_map_left_iff, List.forall₂_map_right_iff, List.forall₂_same]
      exact fun q hq => (h q hq).condition
    exact Condition.ofExpr?_joined hmake hjoined hcs

/-- A text that is read as a whole. -/
theorem IsRead.ofText?_eq (h : IsRead d k p) (hd : d < Sql.depthLimit) (hk : 0 < k) :
    ofText? p.text =
      if Measure.bytes.limit < p.text.utf8ByteSize then
        .error (.tooLarge .bytes p.text.utf8ByteSize)
      else if Measure.tokens.limit < p.tokens.length then
        .error (.tooLarge .tokens p.tokens.length)
      else .ok (ofCondition p.condition) := by
  have htrimmed : Text.trimmed p.text = p.text := by
    rw [← String.toList_inj, Text.toList_trimmed, h.written.trim]
  have hne : (Text.trimmed p.text).isEmpty = false := by
    obtain ⟨c, tail, hcs, -⟩ := h.written.exists_cons
    rw [htrimmed, Bool.eq_false_iff]
    intro hempty
    rw [String.isEmpty_iff.1 hempty] at hcs
    cases hcs
  have hbare : startsStatement p.text.toList = false := by
    simpa using h.bare []
  have hread : Sql.readExpr p.tokens = .ok (p.expr, []) := h.binds.run_expr hk hd
  rw [ofText?_eq_bind hne, htrimmed, tokens?_eq h.written.scan]
  simp only [hbare, Bool.false_eq_true, if_false]
  split_ifs with hbytes htokens
  · rfl
  · rfl
  · simp only [bind, Except.bind, ofExprTokens?, hread, h.condition]
    rfl

end Part

/-! ### Comparisons -/

/-- A comparison of the column `x` with an integer of 64 binary digits that is not negative.  The
comparison may be negated. -/
structure Item where
  negated : Bool
  relation : Relation
  value : ℕ
  fits : value < 2 ^ 63

namespace Item

/-- The comparison, without its negation. -/
def comparison (item : Item) : Part where
  text := "x " ++ item.relation.symbol ++ " " ++ String.ofList (Nat.toDigits 10 item.value)
  tokens := .word (.unquoted ['x']) :: .symbol item.relation.symbol :: integerTokens item.value
  expr := .binary (.path [.ofWord (.unquoted ['x'])]) (.relation item.relation)
    (integerExpr item.value)
  condition :=
    .compare item.relation (.column ⟨none, "x"⟩) (.literal (.int (Int64.ofInt item.value)))

/-- The comparison, or its negation. -/
def part (item : Item) : Part :=
  if item.negated then item.comparison.negation else item.comparison

theorem isRead_comparison (item : Item) : item.comparison.IsRead 2 Sql.Strength.comparison where
  written := by
    have hname : IsLexeme (wordLexeme "x").1 (wordLexeme "x").2 :=
      Sql.isLexeme_wordLexeme (by decide +kernel)
    have hsign : IsLexeme item.relation.symbol.toList (.symbol item.relation.symbol) := by
      cases item.relation <;> exact ⟨_, _, rfl, fun _ => rfl⟩
    have hwritten := Written.lexeme hname (.lexeme hsign (.number item.value))
    simpa [comparison, wordLexeme, Sql.integerTokens_natCast] using hwritten
  bare rest := by
    simp only [comparison, String.toList_append]
    rfl
  binds := by
    have hname : (Sql.Word.unquoted ['x']).NamesColumn := ⟨by decide +kernel, by rfl⟩
    exact Sql.binds_comparison hname (by decide +kernel) item.relation item.value
  single op j hop hj := by
    cases hop <;> rfl
  condition := by
    have hcolumn : Operand.ofExpr? (.path [.ofWord (.unquoted ['x'])]) =
        .ok (.column ⟨none, "x"⟩) := by
      decide +kernel
    have hvalue : Operand.ofExpr? (integerExpr item.value) =
        .ok (.literal (.int (Int64.ofInt item.value))) := by
      have hsmall : (item.value : ℤ).natAbs < 2 ^ 63 := item.fits
      have hread := Operand.ofExpr?_integerExpr (hsmall.le.trans (by decide))
      simp only [if_neg (Int.not_lt.2 (Int.natCast_nonneg item.value)), if_pos hsmall] at hread
      exact hread
    simp only [comparison, Condition.ofExpr?, Condition.Chain.ofExpr?, hcolumn, hvalue]
    rfl

theorem isRead_part (item : Item) : item.part.IsRead 3 Sql.Strength.comparison := by
  unfold part
  split
  · exact item.isRead_comparison.negation (by decide)
  · exact item.isRead_comparison.mono (by decide)

theorem length_tokens_part (item : Item) :
    item.part.tokens.length + 1 = if item.negated then 5 else 4 := by
  unfold part
  split
  · simp [Part.negation, comparison, Sql.integerTokens_natCast]
  · simp [comparison, Sql.integerTokens_natCast]

end Item

/-- At least one item. -/
structure Group where
  first : Item
  rest : List Item

namespace Group

/-- The items from left to right. -/
def items (group : Group) : List Item := group.first :: group.rest

/-- The items with `AND` between them. -/
def part (group : Group) : Part :=
  .joined .and .and group.first.part (group.rest.map Item.part)

theorem isRead_part (group : Group) : group.part.IsRead 4 Sql.Strength.and := by
  have hitems : ∀ p ∈ group.items.map Item.part, p.IsRead 3 Sql.Strength.comparison := by
    simp [Item.isRead_part]
  exact .joined hitems .and (by decide) rfl

theorem text_part (group : Group) :
    group.part.text = String.intercalate " AND " (group.items.map fun item => item.part.text) :=
  congrArg (String.intercalate " AND ") (Part.map_map_eq (fun _ => rfl) group.items)

example : (part ⟨⟨false, .eq, 1, by decide⟩, [⟨true, .lt, 2, by decide⟩]⟩).text =
    "x = 1 AND NOT x < 2" := by
  decide +kernel

theorem condition_part (group : Group) :
    group.part.condition = .flat .and (group.items.map fun item => item.part.condition) :=
  congrArg (Condition.flat .and) (Part.map_map_eq (fun _ => rfl) group.items)

theorem length_tokens_part (group : Group) : group.part.tokens.length + 1 =
    (group.items.map fun item => if item.negated then 5 else 4).sum := by
  have hlengths := Part.map_map_eq (f := fun p : Part => p.tokens.length + 1)
    Item.length_tokens_part group.items
  rw [← hlengths]
  exact Part.length_tokens_joined .and .and _ _

end Group

/-- The condition of a text of groups is the disjunction of the groups, each of which is the
conjunction of its items, and a group or an item that is alone is what it is.  The text is too large
if it has too many bytes or too many tokens; every item has three tokens, one more if it is negated,
and a connective after it unless it is the last. -/
theorem ofText?_groups (first : Group) (rest : List Group) :
    let groups := first :: rest
    let text := String.intercalate " OR " (groups.map fun group =>
      String.intercalate " AND " (group.items.map fun item => item.part.text))
    let tokens := (groups.map fun group =>
      (group.items.map fun item => if item.negated then 5 else 4).sum).sum - 1
    ofText? text =
      if 65536 < text.utf8ByteSize then .error (.tooLarge .bytes text.utf8ByteSize)
      else if 4096 < tokens then .error (.tooLarge .tokens tokens)
      else .ok (ofCondition (.flat .or (groups.map fun group =>
        .flat .and (group.items.map fun item => item.part.condition)))) := by
  intro groups text tokens
  let whole : Part := .joined .or .or first.part (rest.map Group.part)
  have hread : whole.IsRead 5 Sql.Strength.or := by
    have hgroups : ∀ p ∈ groups.map Group.part, p.IsRead 4 Sql.Strength.and := by
      simp [Group.isRead_part]
    exact .joined hgroups .or (by decide) rfl
  have htext : whole.text = text :=
    congrArg (String.intercalate " OR ") (Part.map_map_eq Group.text_part groups)
  have hcondition : whole.condition = .flat .or (groups.map fun group =>
      .flat .and (group.items.map fun item => item.part.condition)) :=
    congrArg (Condition.flat .or) (Part.map_map_eq Group.condition_part groups)
  have htokens : whole.tokens.length = tokens := by
    have hlength : whole.tokens.length + 1 = (groups.map fun group =>
        (group.items.map fun item => if item.negated then 5 else 4).sum).sum := by
      have hlengths := Part.map_map_eq (f := fun p : Part => p.tokens.length + 1)
        Group.length_tokens_part groups
      rw [← hlengths]
      exact Part.length_tokens_joined .or .or _ _
    exact Nat.eq_sub_of_add_eq hlength
  rw [← htext, ← htokens, ← hcondition]
  exact hread.ofText?_eq (by decide) (by decide)

end Target

end BranchDistance
