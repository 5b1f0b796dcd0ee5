import BranchDistance.Proofs.Sql.Rule
import BranchDistance.Sql.Grammar

/-!
# Statements about the rows of one table

The rules for statements are run on the words that select, delete or change the rows of one table.
What follows `WHERE` is left to the rule for expressions: whichever expression it reads up to the
end is the condition of the statement.

* `Rule.run_source` reads a table, `Rule.run_queryRule`, `run_delete` and `run_update` read the
  statements over it.
* A statement needs two levels more than its condition (`statement_of_operand`).
* So an expression that is read alone is read as a condition as well, unless it takes one of the
  last two levels (`readStatements_of_readExpr`).
-/

namespace BranchDistance.Sql

/-- A word in capitals without quotes. -/
def Token.ofKeyword (k : String) : Token := .word ⟨k, none, k⟩

@[simp] theorem Token.keyword_ofKeyword (k : String) : (ofKeyword k).keyword = k := rfl

@[simp] theorem Token.isSign_ofKeyword (s k : String) : (ofKeyword k).isSign s = false := rfl

/-- A word that stands for a table wherever a source is read.  With the excluded ones sources of
other kinds start. -/
structure Word.NamesTable (w : Word) : Prop where
  unquoted : w.quote = none
  not_lateral : w.keyword ≠ "LATERAL"
  not_table : w.keyword ≠ "TABLE"
  not_unnest : w.keyword ≠ "UNNEST"

namespace Rule

variable {g : Grammar} {w : Word} {k : String} {ts : List Token}

theorem run_nest {α : Type} (body : Rule α → Rule α) :
    (nest body).run g ts = (body (nestTo body ts.length)).run g ts := rfl

@[simp] theorem run_path_ofKeyword :
    path.run g (.word w :: .ofKeyword k :: ts) = .ok ([.ofWord w], .ofKeyword k :: ts) :=
  run_path_word (by simp)

/-! ### A table as a source -/

section Source

variable (hk : k = "WHERE" ∨ k = "SET")

include hk

theorem run_ordinality? :
    ordinality?.run g (.ofKeyword k :: ts) = .ok ("", .ofKeyword k :: ts) := by
  have hne : (Token.ofKeyword k).keyword ≠ "WITH" := by rcases hk with rfl | rfl <;> decide
  simp [ordinality?, run_keywords?_of_ne hne]

theorem run_tableAlias? :
    tableAlias?.run g (.ofKeyword k :: ts) = .ok (none, .ofKeyword k :: ts) := by
  have hreserved : k ∈ reservedForTables := by rcases hk with rfl | rfl <;> decide
  have hne : k ≠ "AS" := by rcases hk with rfl | rfl <;> decide
  simp [tableAlias?, alias?, Token.ofKeyword, hne, hreserved]

theorem run_hints? : hints?.run g (.ofKeyword k :: ts) = .ok ("", .ofKeyword k :: ts) := by
  have hne : k ≠ "WITH" := by rcases hk with rfl | rfl <;> decide
  unfold hints?
  rw [run_bind, run_ahead]
  dsimp only
  split
  · next heq =>
    cases heq
    simp [hne]
  · rfl

theorem run_turned (f : Factor) :
    (turned f).run g (.ofKeyword k :: ts) = .ok (f, .ofKeyword k :: ts) := by
  refine run_loop_of_inr ?_
  rcases hk with rfl | rfl <;> simp

theorem run_table (hw : w.NamesTable) :
    table.run g (.word w :: .ofKeyword k :: ts) =
      .ok (⟨w.text, none, "", some w.text, false⟩, .ofKeyword k :: ts) := by
  have hpartition : k ≠ "PARTITION" := by rcases hk with rfl | rfl <;> decide
  have hmatch : k ≠ "MATCH_RECOGNIZE" := by rcases hk with rfl | rfl <;> decide
  simp [table, run_ordinality? hk, run_tableAlias? hk, run_hints? hk, run_turned hk, hpartition,
    hmatch, renderPath, Name.render, Name.ofWord, hw.unquoted]

theorem run_factor (hw : w.NamesTable) (joined : Rule Joined) :
    (factor joined).run g (.word w :: .ofKeyword k :: ts) =
      .ok (⟨w.text, none, "", some w.text, false⟩, .ofKeyword k :: ts) := by
  rw [← run_table (g := g) hk hw]
  simp [factor, hw.not_lateral, hw.not_table, hw.not_unnest, Token.ofKeyword]

theorem run_join? (f : Rule Factor) :
    (join? f).run g (.ofKeyword k :: ts) = .ok (none, .ofKeyword k :: ts) := by
  have houter : (Token.ofKeyword k).keyword ≠ "OUTER" := by rcases hk with rfl | rfl <;> decide
  rcases hk with rfl | rfl <;> simp [join?, joinKind?, run_keywords?_of_ne houter]

/-- A table to which nothing is joined. -/
theorem run_source (hw : w.NamesTable) :
    source.run g (.word w :: .ofKeyword k :: ts) = .ok (⟨w.text, []⟩, .ofKeyword k :: ts) := by
  have hjoined : joined.run g (.word w :: .ofKeyword k :: ts) =
      .ok (⟨⟨w.text, none, "", some w.text, false⟩, []⟩, .ofKeyword k :: ts) := by
    rw [joined, run_nest, run_bind, run_factor hk hw]
    exact run_loop_of_inr (by simp [run_join? hk])
  simp [source, hjoined, Joined.source, Factor.render, Factor.bindings, String.join]

theorem run_list_source (hw : w.NamesTable) :
    (list source).run g (.word w :: .ofKeyword k :: ts) =
      .ok ([⟨w.text, []⟩], .ofKeyword k :: ts) :=
  run_list_singleton (run_source hk hw) (by simp)

end Source

/-! ### Clauses that are absent -/

@[simp] theorem run_returning?_nil : returning?.run g [] = .ok ("", []) := by simp [returning?]

@[simp] theorem run_order?_nil : order?.run g [] = .ok ("", []) := by simp [order?]

@[simp] theorem run_group?_nil : group?.run g [] = .ok ("", []) := by simp [group?]

@[simp] theorem run_listBy?_nil (k : String) : (listBy? k).run g [] = .ok ("", []) := by
  simp [listBy?]

@[simp] theorem run_clause?_nil (k : String) : (clause? k).run g [] = .ok ("", []) := by
  simp [clause?]

@[simp] theorem run_windows?_nil : windows?.run g [] = .ok ("", []) := by simp [windows?]

@[simp] theorem run_qualified?_nil : qualified?.run g [] = .ok ("", []) := by
  simp [qualified?, words]

@[simp] theorem run_hierarchy?_nil : hierarchy?.run g [] = .ok ("", []) := by simp [hierarchy?]

@[simp] theorem run_queryOrder?_nil : queryOrder?.run g [] = .ok ("", []) := by
  simp [queryOrder?]

@[simp] theorem run_windowStep_nil :
    (windowStep ⟨none, none⟩).run g [] = .ok (⟨none, none⟩, []) := by
  simp [windowStep]

@[simp] theorem run_settings?_nil : settings?.run g [] = .ok ("", []) := by simp [settings?]

@[simp] theorem run_fetch?_nil : fetch?.run g [] = .ok ("", []) := by simp [fetch?]

@[simp] theorem run_purposes_nil : purposes.run g [] = .ok ("", []) :=
  run_loop_of_inr (by simp)

@[simp] theorem run_form?_nil : form?.run g [] = .ok ("", []) := by simp [form?]

@[simp] theorem run_combined_nil (operators : List String) (right : String → Rule Written)
    (first : Written) : (combined operators right first).run g [] = .ok (first, []) :=
  run_loop_of_inr (by simp)

@[simp] theorem run_lateralViews_ofKeyword :
    lateralViews.run g (.ofKeyword "WHERE" :: ts) = .ok ("", .ofKeyword "WHERE" :: ts) := by
  have hne : (Token.ofKeyword "WHERE").keyword ≠ "LATERAL" := by decide
  have hmany {p : Rule (Option String)} (h : p.run g (.ofKeyword "WHERE" :: ts) =
      .ok (none, .ofKeyword "WHERE" :: ts)) :
      (do return words (← many p) : Rule String).run g (.ofKeyword "WHERE" :: ts) =
        .ok ("", .ofKeyword "WHERE" :: ts) := by
    simp [run_many_of_none h, words]
  exact hmany (by simp [run_keywords?_of_ne hne])

/-! ### A star as the only column -/

@[simp] theorem run_distinct?_star : distinct?.run g (.symbol "*" :: ts) =
    .ok ("", .symbol "*" :: ts) := by
  simp [distinct?]

@[simp] theorem run_top?_star : top?.run g (.symbol "*" :: ts) = .ok ("", .symbol "*" :: ts) := by
  simp [top?]

theorem run_list_selected :
    (list selected).run g (.symbol "*" :: .ofKeyword "FROM" :: ts) =
      .ok (["*"], .ofKeyword "FROM" :: ts) := by
  refine run_list_singleton ?_ (by simp)
  simp [selected, item, starOptions, chosen?, words]

/-! ### Statements -/

section Selection

variable {e : Expr} (hw : w.NamesTable) (he : expr.run g ts = .ok (e, []))

include he

theorem run_where? : where?.run g (.ofKeyword "WHERE" :: ts) = .ok (some e, []) := by
  simp [where?, he]

include hw

theorem run_delete :
    delete.run g (.ofKeyword "FROM" :: .word w :: .ofKeyword "WHERE" :: ts) =
      .ok (.onRows (some e) [⟨w.text, []⟩], []) := by
  simp [delete, run_list_source (.inl rfl) hw, run_where? he]

theorem run_select : ∃ text,
    select.run g (.symbol "*" :: .ofKeyword "FROM" :: .word w :: .ofKeyword "WHERE" :: ts) =
      .ok ((text, .select (some e) [⟨w.text, []⟩]), []) := by
  simp [select, run_list_selected, into?, sources?, run_list_source (.inl rfl) hw, clause?,
    run_where? he]

/-- The row of tokens of a query over a table. -/
theorem run_queryRule : ∃ q, q.body = .select (some e) [⟨w.text, []⟩] ∧
    queryRule.run g (.ofKeyword "SELECT" :: .symbol "*" :: .ofKeyword "FROM" :: .word w ::
      .ofKeyword "WHERE" :: ts) = .ok (q, []) := by
  obtain ⟨text, hselect⟩ := run_select hw he
  simp [queryRule, with?, bodyRule, simpleBody, hselect]

/-- One new value, which has to be read up to the condition. -/
theorem run_update {column : Word} {value : Token} {v : Expr}
    (hv : expr.run g (value :: .ofKeyword "WHERE" :: ts) = .ok (v, .ofKeyword "WHERE" :: ts)) :
    ∃ u, u.table = ⟨w.text, []⟩ ∧ u.selection = some e ∧
      update.run g (.word w :: .ofKeyword "SET" :: .word column :: .symbol "=" :: value ::
        .ofKeyword "WHERE" :: ts) = .ok (u, []) := by
  have hpath : path.run g (.word column :: .symbol "=" :: value :: .ofKeyword "WHERE" :: ts) =
      .ok ([.ofWord column], .symbol "=" :: value :: .ofKeyword "WHERE" :: ts) :=
    run_path_word (by simp)
  have hassignment : assignment.run g (.word column :: .symbol "=" :: value ::
      .ofKeyword "WHERE" :: ts) =
        .ok (renderPath [.ofWord column] ++ " = " ++ v.render, .ofKeyword "WHERE" :: ts) := by
    simp [assignment, hpath, hv]
  have hlist := run_list_singleton hassignment (by simp)
  simp [update, run_source (.inr rfl) hw, assignments, hlist, run_where? he]

end Selection

/-- An operand is a whole expression if no operator follows that binds strongly enough. -/
theorem run_expression_of_leadingOperand {e : Expr} {rest : List Token} {strength : ℕ}
    (h : leadingOperand.run g ts = .ok (e, rest)) (hend : strengthAhead rest ≤ strength) :
    (expression strength).run g ts = .ok (e, rest) := by
  unfold expression
  rw [run_bind, h]
  exact run_loop_of_inr (by simp [hend])

/-- A number that stands alone before a condition. -/
theorem run_expression_number (digits : String) (long : Bool) :
    (expression 0).run g (.number digits long :: .ofKeyword "WHERE" :: ts) =
      .ok (.literal (.number digits long), .ofKeyword "WHERE" :: ts) := by
  apply run_expression_of_leadingOperand
  · rw [leadingOperand, run_nest]
    simp [bareOperand, collated]
  · simp [strengthAhead, Token.ofKeyword]

/-! ### Whole texts -/

theorem run_statement_select {q : Query}
    (hq : query.run g (.ofKeyword "SELECT" :: ts) = .ok (q, [])) :
    statement.run g (.ofKeyword "SELECT" :: ts) = .ok (.ofQuery q, []) := by
  unfold Token.ofKeyword at hq ⊢
  simp [statement, hq]

theorem run_statement_delete {s : Statement} (hs : delete.run g ts = .ok (s, [])) :
    statement.run g (.ofKeyword "DELETE" :: ts) = .ok (s, []) := by
  simp [statement, Token.ofKeyword, hs]

theorem run_statement_update {u : Update} (hu : update.run g ts = .ok (u, [])) :
    statement.run g (.ofKeyword "UPDATE" :: ts) = .ok (.onRows u.selection [u.table], []) := by
  simp [statement, Token.ofKeyword, hu]

theorem run_statements {t : Token} {s : Statement} (ht : t ≠ .symbol ";")
    (hs : g.statement (t :: ts) = .ok (s, [])) :
    statements.run g (t :: ts) = .ok ([s], []) := by
  refine (@run_loop_of_inl _ _ g (t :: ts) [] _ ([], true) ([s], false) ?_ (by simp)).trans
    (run_loop_of_inr (by simp))
  simp [ht, nestedStatement, hs]

end Rule

/-- The tokens of a statement up to its condition: of a query for all columns, a deletion, or a
change of one column. -/
inductive Beginning (w : Word) : List Token → Prop
  | select : Beginning w [.ofKeyword "SELECT", .symbol "*", .ofKeyword "FROM", .word w,
      .ofKeyword "WHERE"]
  | delete : Beginning w [.ofKeyword "DELETE", .ofKeyword "FROM", .word w, .ofKeyword "WHERE"]
  | update (column : Word) (digits : String) (long : Bool) :
      Beginning w [.ofKeyword "UPDATE", .word w, .ofKeyword "SET", .word column, .symbol "=",
        .number digits long, .ofKeyword "WHERE"]

section Depth

variable {w : Word} {ts before : List Token} {e : Expr} {d : ℕ}

theorem Grammar.operand_of_le {d' : ℕ} (h : d ≤ d')
    (he : (ofDepth d).operand false 0 ts = .ok (e, [])) :
    (ofDepth d').operand false 0 ts = .ok (e, []) := by
  rcases (ofDepth_le h).operand false 0 ts with h | h
  · rw [he] at h
    cases h
  · rw [← h, he]

open Rule

/-- A grammar that reaches two levels deeper than the condition reads the whole statement. -/
theorem statement_of_operand (hw : w.NamesTable)
    (he : (Grammar.ofDepth d).operand false 0 ts = .ok (e, [])) (hbefore : Beginning w before) :
    (Grammar.ofDepth (d + 2)).statement (before ++ ts) =
      .ok (.onRows (some e) [⟨w.text, []⟩], []) := by
  change statement.run (Grammar.ofDepth (d + 1)) (before ++ ts) = _
  have hexpr : expr.run (Grammar.ofDepth (d + 1)) ts = .ok (e, []) :=
    Grammar.operand_of_le (Nat.le_succ d) he
  cases hbefore with
  | select =>
    obtain ⟨q, hbody, hq⟩ :=
      @run_queryRule { Grammar.ofDepth d with hierarchical := false } w ts e hw he
    refine (run_statement_select (g := Grammar.ofDepth (d + 1)) hq).trans ?_
    rw [Statement.ofQuery, hbody]
  | delete => exact run_statement_delete (run_delete hw hexpr)
  | update column digits long =>
    obtain ⟨u, htable, hselection, hu⟩ :=
      @run_update (Grammar.ofDepth (d + 1)) w ts e hw hexpr column (.number digits long) _
        (run_expression_number digits long)
    refine (run_statement_update hu).trans ?_
    rw [htable, hselection]

theorem statements_of_operand (hw : w.NamesTable)
    (he : (Grammar.ofDepth d).operand false 0 ts = .ok (e, [])) (hbefore : Beginning w before) :
    statements.run (Grammar.ofDepth (d + 2)) (before ++ ts) =
      .ok ([.onRows (some e) [⟨w.text, []⟩]], []) := by
  have hstatement := statement_of_operand hw he hbefore
  cases hbefore <;> exact run_statements (by simp [Token.ofKeyword]) hstatement

/-- What the reader of expressions reads up to the end, the reader of statements reads as the
condition, unless the expression takes one of the last two levels. -/
theorem readStatements_of_readExpr (hw : w.NamesTable) (he : readExpr ts = .ok (e, []))
    (hbefore : Beginning w before) :
    readStatements (before ++ ts) = .ok ([.onRows (some e) [⟨w.text, []⟩]], []) ∨
      readStatements (before ++ ts) = .error .tooDeep ∧
        ∀ e', expr.run (Grammar.ofDepth (depthLimit - 2)) ts ≠ .ok (e', []) := by
  have hdeep := @statements_of_operand w ts before e depthLimit hw he hbefore
  rcases statements.mono (Grammar.ofDepth_le (Nat.le_add_right depthLimit 2)) (before ++ ts) with
    h | h
  · refine .inr ⟨h, fun e' he' => ?_⟩
    have hread := @statements_of_operand w ts before e' (depthLimit - 2) hw he' hbefore
    cases h.symm.trans hread
  · exact .inl (h.trans hdeep)

end Depth

end BranchDistance.Sql
