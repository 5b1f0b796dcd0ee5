import BranchDistance.Proofs.Target.Chain
import BranchDistance.Proofs.Text.LowerCase

/-!
# What a condition keeps of an expression

A condition that is read from an expression is well formed, and it refers to the columns that the
expression names, in the same order and as often (`Condition.kept_references`).

* `Expr.references?` collects the names of an expression from left to right, `Column.IsNamed` says
  which column a name means.
* `Condition.IsWellFormed` has one rule for each kind of condition: a conjunction or disjunction has
  at least two parts, a binary64 literal is finite and a column is named in folded form.

Reading an operand never takes a name away or puts one in (`Operand.keeps`).  A chain of one
connective is opened while it is read, so its parts are looked at together
(`Chain.columnsOfAll_parts`).
-/

namespace BranchDistance

open Sql (Expr Name Connective)

/-! ### The names in an expression -/

namespace Sql

/-- Two lists one after the other, if there are both. -/
def append? {α : Type} (xs ys : Option (List α)) : Option (List α) := return (← xs) ++ (← ys)

namespace Expr

mutual

/-- The names in an expression, from left to right; those in subqueries are not among them.  An
expression that holds a part kept only as text has no such list. -/
def references? : Expr → Option (List (List Name))
  | .path parts => some [parts]
  | .literal _ => some []
  | .typed _ _ => some []
  | .nested inner => inner.references?
  | .cast _ inner _ => inner.references?
  | .leading _ inner => inner.references?
  | .between inner _ low high =>
    append? (append? inner.references? low.references?) high.references?
  | .binary left _ right => append? left.references? right.references?
  | .is inner _ _ => inner.references?
  | .inList inner _ list => append? inner.references? (referencesOfAll? list)
  | .inQuery inner _ _ => inner.references?
  | .exists _ _ => some []
  | .like inner _ _ _ pattern _ => append? inner.references? pattern.references?
  | .subquery _ => some []
  | .other _ => none

/-- The names in several expressions, from left to right. -/
def referencesOfAll? : List Expr → Option (List (List Name))
  | [] => some []
  | e :: rest => append? e.references? (referencesOfAll? rest)

end

end Expr

end Sql

namespace Column

/-- The column that a name means: its last part, in the table that the part before it names. -/
inductive IsNamed : List Name → Column → Prop
  | alone (name : Name) : IsNamed [name] (.named none name.text)
  | qualified (before : List Name) (table name : Name) :
    IsNamed (before ++ [table, name]) (.named (some table.text) name.text)

/-- Folding changes none of the names. -/
def IsFolded (c : Column) : Prop :=
  (∀ table ∈ c.table, Text.casefold table = table) ∧ Text.casefold c.name = c.name

theorem isFolded_named (table : Option String) (name : String) : (named table name).IsFolded := by
  constructor
  · intro t ht
    obtain ⟨s, -, rfl⟩ := Option.mem_map.1 ht
    exact Text.casefold_casefold s
  · exact Text.casefold_casefold name

theorem IsNamed.isFolded {parts : List Name} {c : Column} (h : IsNamed parts c) : c.IsFolded := by
  cases h <;> exact isFolded_named _ _

end Column

/-- The columns of some conditions or operands are those that are named in some expressions. -/
def Sql.MeansColumns (names : Option (List (List Name))) (columns : List Column) : Prop :=
  ∃ parts, names = some parts ∧ List.Forall₂ Column.IsNamed parts columns

/-- An expression refers to columns, from left to right. -/
def Sql.Expr.Refers (e : Expr) (columns : List Column) : Prop :=
  MeansColumns e.references? columns

namespace Sql.MeansColumns

theorem nil : MeansColumns (some []) [] := ⟨[], rfl, .nil⟩

theorem append {names names' : Option (List (List Name))} {columns columns' : List Column}
    (h : MeansColumns names columns) (h' : MeansColumns names' columns') :
    MeansColumns (append? names names') (columns ++ columns') := by
  obtain ⟨parts, rfl, hparts⟩ := h
  obtain ⟨parts', rfl, hparts'⟩ := h'
  exact ⟨parts ++ parts', rfl, List.rel_append hparts hparts'⟩

end Sql.MeansColumns

/-! ### Well-formed conditions -/

/-- Every binary64 literal of an operand is finite and every column is named in folded form. -/
inductive Operand.IsWellFormed : Operand → Prop
  | column {c : Column} : c.IsFolded → IsWellFormed (column c)
  | literal {v : Value} : (∀ x, v = .float x → x.isFinite = true) → IsWellFormed (literal v)
  | arithmetic {op : Operation} {l r : Operand} :
    IsWellFormed l → IsWellFormed r → IsWellFormed (arithmetic op l r)

/-- Every conjunction and disjunction in a condition has at least two parts, and every operand in it
is well formed. -/
inductive Condition.IsWellFormed : Condition → Prop
  | compare {relation : Relation} {l r : Operand} :
    l.IsWellFormed → r.IsWellFormed → IsWellFormed (compare relation l r)
  | and {children : List Condition} :
    2 ≤ children.length → (∀ child ∈ children, IsWellFormed child) → IsWellFormed (and children)
  | or {children : List Condition} :
    2 ≤ children.length → (∀ child ∈ children, IsWellFormed child) → IsWellFormed (or children)
  | not {inner : Condition} : IsWellFormed inner → IsWellFormed (not inner)
  | isNull {o : Operand} {negated : Bool} : o.IsWellFormed → IsWellFormed (isNull o negated)
  | between {o low high : Operand} :
    o.IsWellFormed → low.IsWellFormed → high.IsWellFormed → IsWellFormed (between o low high)
  | inList {o : Operand} {candidates : List Operand} :
    o.IsWellFormed → (∀ candidate ∈ candidates, candidate.IsWellFormed) →
      IsWellFormed (inList o candidates)
  | inQuery {o : Operand} {query : String} : o.IsWellFormed → IsWellFormed (inQuery o query)
  | like {o pattern : Operand} {negated foldCase : Bool} :
    o.IsWellFormed → pattern.IsWellFormed → IsWellFormed (like o pattern negated foldCase)
  | exists {query : String} : IsWellFormed (.exists query)

/-! ### Operands -/

namespace Operand

/-- An operand is well formed and has the columns to which an expression refers. -/
def Keeps (e : Expr) (o : Operand) : Prop := o.IsWellFormed ∧ e.Refers o.columns

theorem exists_isNamed_of_ofPath? {parts : List Name} {o : Operand} (h : ofPath? parts = .ok o) :
    ∃ c, o = column c ∧ Column.IsNamed parts c := by
  unfold ofPath? at h
  split at h
  · next last table before hparts =>
    cases h
    rw [List.reverse_eq_iff, List.reverse_cons, List.reverse_cons, List.append_assoc] at hparts
    rw [hparts]
    exact ⟨_, rfl, .qualified _ _ _⟩
  · next last hparts =>
    cases h
    rw [List.reverse_eq_iff] at hparts
    rw [hparts]
    exact ⟨_, rfl, .alone _⟩
  · cases h

theorem keeps_path {parts : List Name} {o : Operand} (h : ofPath? parts = .ok o) :
    Keeps (.path parts) o := by
  obtain ⟨c, rfl, hc⟩ := exists_isNamed_of_ofPath? h
  exact ⟨.column hc.isFolded, [parts], rfl, .cons hc .nil⟩

/-- A run of digits is an integer or a finite number. -/
theorem isFinite_of_ofDigits? {digits : String} {x : Float}
    (h : ofDigits? digits = .ok (.float x)) : x.isFinite = true := by
  unfold ofDigits? at h
  split at h
  · next v hv =>
    -- an integer that fits into 64 digits is no binary64 number
    cases h
    obtain ⟨n, -, hn⟩ := Option.bind_eq_some_iff.1 hv
    unfold Value.ofInt? at hn
    split_ifs at hn
    cases hn
  · split at h
    · next y hy =>
      cases h
      exact (Option.filter_eq_some_iff.1 hy).2
    · cases h

theorem isFinite_of_ofLiteral? {l : Sql.Literal} {x : Float}
    (h : ofLiteral? l = .ok (.float x)) : x.isFinite = true := by
  unfold ofLiteral? at h
  split at h
  case h_1 digits long => exact isFinite_of_ofDigits? h
  all_goals cases h

theorem IsWellFormed.negative {o : Operand} (h : o.IsWellFormed) : o.negative.IsWellFormed := by
  have hinteger (n : Int64) : (Operand.literal (.int n)).IsWellFormed := .literal nofun
  unfold Operand.negative
  split
  · next n =>
    split_ifs
    · exact .arithmetic (hinteger 0) h
    · exact hinteger _
  · next x =>
    refine .literal fun y hy => ?_
    cases hy
    cases h with
    | literal hfinite => rw [Binary64.isFinite_neg]; exact hfinite x rfl
  · exact .arithmetic (hinteger 0) h

theorem columns_negative (o : Operand) : o.negative.columns = o.columns := by
  unfold Operand.negative
  split
  · split_ifs <;> rfl
  · rfl
  · rfl

/-- Whatever an expression is as an operand, the operand keeps. -/
theorem keeps {e : Expr} {o : Operand} (h : ofExpr? e = .ok o) : Keeps e o := by
  fun_induction ofExpr? e generalizing o with
  | case1 parts => exact keeps_path h
  | case2 l =>
    obtain ⟨v, hv, ⟨⟩⟩ := bind_eq_ok_iff.1 h
    refine ⟨.literal fun x hx => ?_, .nil⟩
    subst hx
    exact isFinite_of_ofLiteral? hv
  | case3 type content =>
    cases h
    exact ⟨.literal nofun, .nil⟩
  | case4 inner ih => exact ih h
  | case5 form inner type ih => exact ih h
  | case6 inner ih => exact ih h
  | case7 inner ih =>
    obtain ⟨a, ha, ⟨⟩⟩ := bind_eq_ok_iff.1 h
    obtain ⟨hwell, hrefers⟩ := ih ha
    refine ⟨hwell.negative, ?_⟩
    rw [columns_negative]
    exact hrefers
  | case8 left op right ihl ihr =>
    obtain ⟨l, hl, h⟩ := bind_eq_ok_iff.1 h
    obtain ⟨r, hr, ⟨⟩⟩ := bind_eq_ok_iff.1 h
    obtain ⟨hwell, hrefers⟩ := ihl hl
    obtain ⟨hwell', hrefers'⟩ := ihr hr
    exact ⟨.arithmetic hwell hwell', hrefers.append hrefers'⟩
  | case9 e => cases h

/-- The operands of a list keep what the expressions of a list are, one by one. -/
theorem keeps_all {list : List Expr} {candidates : List Operand}
    (h : list.mapM ofExpr? = .ok candidates) :
    (∀ candidate ∈ candidates, candidate.IsWellFormed) ∧
      Sql.MeansColumns (Sql.Expr.referencesOfAll? list) (candidates.flatMap columns) := by
  rw [mapM_eq_ok_iff] at h
  induction h with
  | nil => exact ⟨nofun, .nil⟩
  | cons hfirst _ ih =>
    obtain ⟨hwell, hrefers⟩ := keeps hfirst
    exact ⟨List.forall_mem_cons.2 ⟨hwell, ih.1⟩, hrefers.append ih.2⟩

end Operand

/-! ### Conditions -/

namespace Condition

theorem columnsOfAll_append (cs ds : List Condition) :
    columnsOfAll (cs ++ ds) = columnsOfAll cs ++ columnsOfAll ds := by
  induction cs with
  | nil => rfl
  | cons c cs ih => rw [List.cons_append, columnsOfAll, columnsOfAll, ih, List.append_assoc]

/-- A condition is well formed and has the columns to which an expression refers. -/
def Keeps (e : Expr) (c : Condition) : Prop := c.IsWellFormed ∧ e.Refers c.columns

theorem IsWellFormed.negatedIf {c : Condition} (h : c.IsWellFormed) (negated : Bool) :
    (negatedIf negated c).IsWellFormed := by
  cases negated
  · exact h
  · exact .not h

theorem columns_negatedIf (negated : Bool) (c : Condition) :
    (negatedIf negated c).columns = c.columns := by
  cases negated
  · rfl
  · rw [negatedIf, if_pos rfl, columns]

theorem Keeps.negatedIf {e : Expr} {c : Condition} (h : Keeps e c) (negated : Bool) :
    Keeps e (negatedIf negated c) := by
  refine ⟨h.1.negatedIf negated, ?_⟩
  rw [columns_negatedIf]
  exact h.2

theorem keeps_hasTruth {e : Expr} {o : Operand} (h : Operand.Keeps e o) (truth : Bool) :
    Keeps e (hasTruth truth o) := by
  refine ⟨.compare h.1 (.literal nofun), ?_⟩
  rw [hasTruth, columns, Operand.columns, List.append_nil]
  exact h.2

namespace Chain

variable {op : Connective} {make : List Condition → Chain}

theorem columnsOfAll_parts (op : Connective) (chain : Chain) :
    columnsOfAll (chain.parts op) = chain.condition.columns := by
  have hsingle (c : Condition) : columnsOfAll [c] = c.columns := by
    rw [columnsOfAll, columnsOfAll, List.append_nil]
  cases op <;> cases chain
  case and.all cs => rw [condition, columns]; rfl
  case or.any cs => rw [condition, columns]; rfl
  all_goals exact hsingle _

/-- A well-formed chain has at least one part for every connective, and well-formed parts only. -/
theorem isWellFormed_parts (op : Connective) {chain : Chain} (h : chain.condition.IsWellFormed) :
    1 ≤ (chain.parts op).length ∧ ∀ c ∈ chain.parts op, c.IsWellFormed := by
  have hsingle {c : Condition} (hc : c.IsWellFormed) :
      1 ≤ [c].length ∧ ∀ d ∈ [c], d.IsWellFormed :=
    ⟨le_rfl, fun d hd => List.mem_singleton.1 hd ▸ hc⟩
  cases op <;> cases chain
  case and.all cs =>
    cases h with
    | and hlength hparts => exact ⟨Nat.le_of_succ_le hlength, hparts⟩
  case or.any cs =>
    cases h with
    | or hlength hparts => exact ⟨Nat.le_of_succ_le hlength, hparts⟩
  all_goals exact hsingle h

/-- A chain that is joined from two keeps what both of them keep. -/
theorem keeps_make (h : op.chain? = some make) {left right : Expr} {l r : Chain}
    (hl : Keeps left l.condition) (hr : Keeps right r.condition) :
    Keeps (.binary left op right) (make (l.parts op ++ r.parts op)).condition := by
  obtain ⟨hlength, hparts⟩ := isWellFormed_parts op hl.1
  obtain ⟨hlength', hparts'⟩ := isWellFormed_parts op hr.1
  -- a chain that is opened adds several parts, all else adds one
  have htwo : 2 ≤ (l.parts op ++ r.parts op).length := by
    rw [List.length_append]
    omega
  have hall : ∀ c ∈ l.parts op ++ r.parts op, c.IsWellFormed := by
    intro c hc
    exact (List.mem_append.1 hc).elim (hparts c) (hparts' c)
  have hrefers : (Expr.binary left op right).Refers
      (columnsOfAll (l.parts op ++ r.parts op)) := by
    rw [columnsOfAll_append, columnsOfAll_parts, columnsOfAll_parts]
    exact hl.2.append hr.2
  cases op <;> cases h
  case and.refl => exact ⟨.and htwo hall, hrefers⟩
  case or.refl => exact ⟨.or htwo hall, hrefers⟩

/-- Whatever an expression is as a condition, the condition keeps. -/
theorem keeps {e : Expr} {chain : Chain} (h : ofExpr? e = .ok chain) :
    Keeps e chain.condition := by
  fun_induction ofExpr? e generalizing chain with
  | case1 inner ih =>
    obtain ⟨c, hc, ⟨⟩⟩ := bind_eq_ok_iff.1 h
    have hinner := ih hc
    exact hinner
  | case2 left right ihl ihr =>
    obtain ⟨l, hl, h⟩ := bind_eq_ok_iff.1 h
    obtain ⟨r, hr, ⟨⟩⟩ := bind_eq_ok_iff.1 h
    exact keeps_make rfl (ihl hl) (ihr hr)
  | case3 left right ihl ihr =>
    obtain ⟨l, hl, h⟩ := bind_eq_ok_iff.1 h
    obtain ⟨r, hr, ⟨⟩⟩ := bind_eq_ok_iff.1 h
    exact keeps_make rfl (ihl hl) (ihr hr)
  | case4 left relation right =>
    obtain ⟨l, hl, h⟩ := bind_eq_ok_iff.1 h
    obtain ⟨r, hr, ⟨⟩⟩ := bind_eq_ok_iff.1 h
    obtain ⟨hwell, hrefers⟩ := Operand.keeps hl
    obtain ⟨hwell', hrefers'⟩ := Operand.keeps hr
    refine ⟨.compare hwell hwell', ?_⟩
    rw [condition, columns]
    exact hrefers.append hrefers'
  | case5 inner ih =>
    obtain ⟨c, hc, ⟨⟩⟩ := bind_eq_ok_iff.1 h
    refine ⟨.not (ih hc).1, ?_⟩
    rw [condition, columns]
    exact (ih hc).2
  | case6 inner negated =>
    obtain ⟨o, ho, ⟨⟩⟩ := bind_eq_ok_iff.1 h
    refine ⟨.isNull (Operand.keeps ho).1, ?_⟩
    rw [condition, columns]
    exact (Operand.keeps ho).2
  | case7 inner negated =>
    obtain ⟨o, ho, ⟨⟩⟩ := bind_eq_ok_iff.1 h
    exact (keeps_hasTruth (Operand.keeps ho) true).negatedIf negated
  | case8 inner negated =>
    obtain ⟨o, ho, ⟨⟩⟩ := bind_eq_ok_iff.1 h
    exact (keeps_hasTruth (Operand.keeps ho) false).negatedIf negated
  | case9 inner negated low high =>
    obtain ⟨o, ho, h⟩ := bind_eq_ok_iff.1 h
    obtain ⟨l, hl, h⟩ := bind_eq_ok_iff.1 h
    obtain ⟨r, hr, ⟨⟩⟩ := bind_eq_ok_iff.1 h
    obtain ⟨hwell, hrefers⟩ := Operand.keeps ho
    obtain ⟨hlow, hrefers'⟩ := Operand.keeps hl
    obtain ⟨hhigh, hrefers''⟩ := Operand.keeps hr
    refine Keeps.negatedIf ⟨.between hwell hlow hhigh, ?_⟩ negated
    rw [columns]
    exact (hrefers.append hrefers').append hrefers''
  | case10 inner negated list =>
    -- the candidates are read before the operand, but they stand after it
    obtain ⟨candidates, hcandidates, h⟩ := bind_eq_ok_iff.1 h
    obtain ⟨o, ho, ⟨⟩⟩ := bind_eq_ok_iff.1 h
    obtain ⟨hwell, hrefers⟩ := Operand.keeps ho
    obtain ⟨hall, hrefers'⟩ := Operand.keeps_all hcandidates
    refine Keeps.negatedIf ⟨.inList hwell hall, ?_⟩ negated
    rw [columns]
    exact hrefers.append hrefers'
  | case11 inner negated query =>
    obtain ⟨o, ho, ⟨⟩⟩ := bind_eq_ok_iff.1 h
    refine Keeps.negatedIf ⟨.inQuery (Operand.keeps ho).1, ?_⟩ negated
    rw [columns]
    exact (Operand.keeps ho).2
  | case12 negated query =>
    cases h
    refine Keeps.negatedIf ⟨.exists, ?_⟩ negated
    rw [columns]
    exact .nil
  | case13 inner negated foldCase any pattern =>
    obtain ⟨o, ho, h⟩ := bind_eq_ok_iff.1 h
    obtain ⟨p, hp, ⟨⟩⟩ := bind_eq_ok_iff.1 h
    obtain ⟨hwell, hrefers⟩ := Operand.keeps ho
    obtain ⟨hpattern, hrefers'⟩ := Operand.keeps hp
    refine ⟨.like hwell hpattern, ?_⟩
    rw [condition, columns]
    exact hrefers.append hrefers'
  | case14 parts =>
    obtain ⟨o, ho, ⟨⟩⟩ := bind_eq_ok_iff.1 h
    exact keeps_hasTruth (Operand.keeps_path ho) true
  | case15 b =>
    cases h
    have hliteral : Operand.Keeps (.literal (.bool b)) (.literal (.bool b)) :=
      ⟨.literal nofun, .nil⟩
    exact keeps_hasTruth hliteral true
  | case16 e => cases h

end Chain

/-- Every condition that is read from an expression is well formed, and its columns are those that
the names of the expression mean, from left to right and as often.  Conversions, parentheses and
signs neither hide a name nor add one, and of a longer name the last two parts count. -/
theorem kept_references {e : Expr} {n : Condition} (h : ofExpr? e = .ok n) :
    n.IsWellFormed ∧ e.Refers n.columns := by
  obtain ⟨chain, hchain, ⟨⟩⟩ := bind_eq_ok_iff.1 h
  exact Chain.keeps hchain

/-- `NOT (s.T.A BETWEEN -1.5 AND CAST(B AS INT)) AND C IN (0, -T.A) AND D` names four columns, the
first of them twice. -/
theorem kept_references_twice :
    let name (s : String) : Name := ⟨s, none⟩
    let e : Expr := .binary (.binary
      (.leading .not (.nested (.between (.path [name "s", name "T", name "A"]) false
        (.leading .minus (.literal (.number "1.5" false)))
        (.cast (.call "CAST") (.path [name "B"]) "INT")))) .and
      (.inList (.path [name "C"]) false
        [.literal (.number "0" false), .leading .minus (.path [name "T", name "A"])])) .and
      (.path [name "D"])
    ∃ n, ofExpr? e = .ok n ∧ n.IsWellFormed ∧ e.Refers n.columns ∧
      n.columns = [.named (some "T") "A", .named none "B", .named none "C", .named (some "T") "A",
        .named none "D"] := by
  intro name e
  have hread : (ofExpr? e).isOk = true := by decide
  obtain ⟨n, hn⟩ := exists_eq_ok hread
  obtain ⟨hwell, hrefers⟩ := kept_references hn
  refine ⟨n, hn, hwell, hrefers, ?_⟩
  cases hn
  rfl

end Condition

end BranchDistance
