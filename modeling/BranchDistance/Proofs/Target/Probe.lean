import BranchDistance.Proofs.Text.ByteOrder
import BranchDistance.Target

/-!
# The tables of a condition

Where a condition stands alone, its candidate rows come from the tables that its columns name
(`Condition.probe_covers`).

* `Mentions` says where a column can stand, one rule for each place in an operand or a condition;
  nothing inside the text of a subquery is such a place.  The columns that are collected are exactly
  the mentioned ones (`Condition.mem_columns_iff`).
* The collected tables are distinct and ascend by their bytes (`Condition.isAscending_tables`).
-/

namespace BranchDistance

/-! ### Mentioned columns -/

/-- A column stands in an operand. -/
inductive Operand.Mentions (c : Column) : Operand → Prop
  | column : Mentions c (column c)
  | left {op : Operation} {l r : Operand} : Mentions c l → Mentions c (arithmetic op l r)
  | right {op : Operation} {l r : Operand} : Mentions c r → Mentions c (arithmetic op l r)

/-- A column stands in a condition, outside of subqueries. -/
inductive Condition.Mentions (c : Column) : Condition → Prop
  | left {relation : Relation} {l r : Operand} : l.Mentions c → Mentions c (compare relation l r)
  | right {relation : Relation} {l r : Operand} : r.Mentions c → Mentions c (compare relation l r)
  | and {children : List Condition} {child : Condition} :
    child ∈ children → Mentions c child → Mentions c (and children)
  | or {children : List Condition} {child : Condition} :
    child ∈ children → Mentions c child → Mentions c (or children)
  | not {inner : Condition} : Mentions c inner → Mentions c (not inner)
  | isNull {o : Operand} {negated : Bool} : o.Mentions c → Mentions c (isNull o negated)
  | between {o low high : Operand} : o.Mentions c → Mentions c (between o low high)
  | low {o low high : Operand} : low.Mentions c → Mentions c (between o low high)
  | high {o low high : Operand} : high.Mentions c → Mentions c (between o low high)
  | inList {o : Operand} {candidates : List Operand} :
    o.Mentions c → Mentions c (inList o candidates)
  | candidate {o candidate : Operand} {candidates : List Operand} :
    candidate ∈ candidates → candidate.Mentions c → Mentions c (inList o candidates)
  | inQuery {o : Operand} {query : String} : o.Mentions c → Mentions c (inQuery o query)
  | like {o pattern : Operand} {negated foldCase : Bool} :
    o.Mentions c → Mentions c (like o pattern negated foldCase)
  | pattern {o pattern : Operand} {negated foldCase : Bool} :
    pattern.Mentions c → Mentions c (like o pattern negated foldCase)

theorem Operand.mem_columns_iff {c : Column} {o : Operand} : c ∈ o.columns ↔ o.Mentions c := by
  constructor
  · intro h
    induction o with
    | column d =>
      obtain rfl := List.mem_singleton.1 h
      exact .column
    | literal v => cases h
    | arithmetic op l r ihl ihr =>
      rcases List.mem_append.1 h with h | h
      · exact .left (ihl h)
      · exact .right (ihr h)
  · intro h
    induction h with
    | column => exact List.mem_singleton_self c
    | left _ ih => exact List.mem_append_left _ ih
    | right _ ih => exact List.mem_append_right _ ih

namespace Condition

theorem mem_columnsOfAll {c : Column} {children : List Condition} :
    c ∈ columnsOfAll children ↔ ∃ child ∈ children, c ∈ child.columns := by
  induction children with
  | nil => simp [columnsOfAll]
  | cons child rest ih => simp [columnsOfAll, ih]

mutual

theorem mentions_of_mem_columns {c : Column} : (condition : Condition) → c ∈ condition.columns →
    condition.Mentions c
  | compare relation l r, h => by
    rcases List.mem_append.1 h with h | h
    · exact .left (Operand.mem_columns_iff.1 h)
    · exact .right (Operand.mem_columns_iff.1 h)
  | and children, h => by
    obtain ⟨child, hmem, hmentions⟩ := exists_mentions_of_mem_columnsOfAll children h
    exact .and hmem hmentions
  | or children, h => by
    obtain ⟨child, hmem, hmentions⟩ := exists_mentions_of_mem_columnsOfAll children h
    exact .or hmem hmentions
  | not inner, h => .not (mentions_of_mem_columns inner h)
  | isNull o negated, h => .isNull (Operand.mem_columns_iff.1 h)
  | between o low high, h => by
    rcases List.mem_append.1 h with h | h
    · rcases List.mem_append.1 h with h | h
      · exact .between (Operand.mem_columns_iff.1 h)
      · exact .low (Operand.mem_columns_iff.1 h)
    · exact .high (Operand.mem_columns_iff.1 h)
  | inList o candidates, h => by
    rcases List.mem_append.1 h with h | h
    · exact .inList (Operand.mem_columns_iff.1 h)
    · obtain ⟨candidate, hmem, hc⟩ := List.mem_flatMap.1 h
      exact .candidate hmem (Operand.mem_columns_iff.1 hc)
  | inQuery o query, h => .inQuery (Operand.mem_columns_iff.1 h)
  | like o pattern negated foldCase, h => by
    rcases List.mem_append.1 h with h | h
    · exact .like (Operand.mem_columns_iff.1 h)
    · exact .pattern (Operand.mem_columns_iff.1 h)
  | .exists query, h => nomatch h

theorem exists_mentions_of_mem_columnsOfAll {c : Column} : (children : List Condition) →
    c ∈ columnsOfAll children → ∃ child ∈ children, child.Mentions c
  | [], h => nomatch h
  | child :: rest, h => by
    rcases List.mem_append.1 h with h | h
    · exact ⟨child, List.mem_cons_self, mentions_of_mem_columns child h⟩
    · obtain ⟨other, hmem, hmentions⟩ := exists_mentions_of_mem_columnsOfAll rest h
      exact ⟨other, List.mem_cons_of_mem _ hmem, hmentions⟩

end

/-- The columns of a condition are those that stand in it. -/
theorem mem_columns_iff {c : Column} {condition : Condition} :
    c ∈ condition.columns ↔ condition.Mentions c := by
  refine ⟨mentions_of_mem_columns condition, fun h => ?_⟩
  induction h with
  | left h => exact List.mem_append_left _ (Operand.mem_columns_iff.2 h)
  | right h => exact List.mem_append_right _ (Operand.mem_columns_iff.2 h)
  | and hmem _ ih => exact mem_columnsOfAll.2 ⟨_, hmem, ih⟩
  | or hmem _ ih => exact mem_columnsOfAll.2 ⟨_, hmem, ih⟩
  | not _ ih => exact ih
  | isNull h => exact Operand.mem_columns_iff.2 h
  | between h =>
    exact List.mem_append_left _ (List.mem_append_left _ (Operand.mem_columns_iff.2 h))
  | low h => exact List.mem_append_left _ (List.mem_append_right _ (Operand.mem_columns_iff.2 h))
  | high h => exact List.mem_append_right _ (Operand.mem_columns_iff.2 h)
  | inList h => exact List.mem_append_left _ (Operand.mem_columns_iff.2 h)
  | candidate hmem h =>
    exact List.mem_append_right _ (List.mem_flatMap.2 ⟨_, hmem, Operand.mem_columns_iff.2 h⟩)
  | inQuery h => exact Operand.mem_columns_iff.2 h
  | like h => exact List.mem_append_left _ (Operand.mem_columns_iff.2 h)
  | pattern h => exact List.mem_append_right _ (Operand.mem_columns_iff.2 h)

end Condition

/-! ### Ascending names -/

/-- The names are distinct and ascend by their bytes. -/
def IsAscending (names : List String) : Prop :=
  names.Pairwise fun s t => Text.bytes s < Text.bytes t

theorem mem_insertName {name t : String} {names : List String} :
    t ∈ insertName name names ↔ t = name ∨ t ∈ names := by
  induction names with
  | nil => simp [insertName]
  | cons first rest ih =>
    unfold insertName
    split_ifs with hlt heq
    · exact List.mem_cons
    · -- a name that is there already is not inserted again
      subst heq
      rw [List.mem_cons, or_self_left]
    · rw [List.mem_cons, ih, List.mem_cons, or_left_comm]

theorem IsAscending.insertName {names : List String} (h : IsAscending names) (name : String) :
    IsAscending (insertName name names) := by
  induction names with
  | nil => exact List.pairwise_singleton _ _
  | cons first rest ih =>
    obtain ⟨hfirst, hrest⟩ := List.pairwise_cons.1 h
    unfold BranchDistance.insertName
    split_ifs with hlt heq
    · refine List.pairwise_cons.2 ⟨fun t ht => ?_, h⟩
      rcases List.mem_cons.1 ht with rfl | ht
      · exact Text.lt_iff_bytes_lt.1 hlt
      · exact Text.lt_iff_bytes_lt.1 (hlt.trans (Text.lt_iff_bytes_lt.2 (hfirst t ht)))
    · exact h
    · refine List.pairwise_cons.2 ⟨fun t ht => ?_, ih hrest⟩
      rcases mem_insertName.1 ht with rfl | ht
      · exact Text.lt_iff_bytes_lt.1 (lt_of_le_of_ne (not_lt.1 hlt) (Ne.symm heq))
      · exact hfirst t ht

theorem mem_foldr_insertName {t : String} {names : List String} :
    t ∈ names.foldr insertName [] ↔ t ∈ names := by
  induction names with
  | nil => rfl
  | cons name rest ih => rw [List.foldr_cons, mem_insertName, ih, List.mem_cons]

theorem isAscending_foldr_insertName (names : List String) :
    IsAscending (names.foldr insertName []) := by
  induction names with
  | nil => exact List.Pairwise.nil
  | cons name rest ih => exact ih.insertName name

namespace Condition

/-- The table qualifies a column that stands in the condition. -/
def Names (condition : Condition) (table : String) : Prop :=
  ∃ c, condition.Mentions c ∧ c.table = some table

theorem mem_tables_iff {condition : Condition} {table : String} :
    table ∈ condition.tables ↔ condition.Names table := by
  simp only [tables, mem_foldr_insertName, List.mem_filterMap, mem_columns_iff, Names]

theorem isAscending_tables (condition : Condition) : IsAscending condition.tables :=
  isAscending_foldr_insertName _

theorem tables_eq_nil_iff {condition : Condition} :
    condition.tables = [] ↔ ∀ table, ¬ condition.Names table := by
  simp only [List.eq_nil_iff_forall_not_mem, mem_tables_iff]

/-- The tables of a condition are exactly those that qualify a column standing in it, and the query
of its target asks for all rows of each of them once, in ascending order of their bytes.  There is
no query exactly if no column is qualified. -/
theorem probe_covers (condition : Condition) :
    let query := (Target.ofCondition condition).probeQuery
    (∀ table, table ∈ condition.tables ↔ condition.Names table) ∧
      IsAscending condition.tables ∧
      (query = none ↔ ∀ table, ¬ condition.Names table) ∧
      ∀ text, query = some text ↔ (∃ table, condition.Names table) ∧
        text = "SELECT * FROM " ++ String.intercalate ", " condition.tables := by
  intro query
  have hquery : query = if condition.tables.isEmpty then none
      else some ("SELECT * FROM " ++ String.intercalate ", " condition.tables) := rfl
  refine ⟨fun table => mem_tables_iff, isAscending_tables condition, ?_⟩
  by_cases hempty : condition.tables = []
  · have hnone := tables_eq_nil_iff.1 hempty
    rw [hquery, if_pos (List.isEmpty_iff.2 hempty)]
    refine ⟨iff_of_true rfl hnone, fun text => iff_of_false (nomatch ·) fun h => ?_⟩
    obtain ⟨⟨table, htable⟩, -⟩ := h
    exact hnone table htable
  · have hsome := mt tables_eq_nil_iff.2 hempty
    rw [hquery, if_neg (mt List.isEmpty_iff.1 hempty)]
    refine ⟨iff_of_false (nomatch ·) hsome, fun text => ?_⟩
    rw [and_iff_right (not_forall_not.1 hsome), Option.some_inj, eq_comm]

end Condition

end BranchDistance
