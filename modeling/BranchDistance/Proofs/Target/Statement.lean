import BranchDistance.Proofs.Result
import BranchDistance.Proofs.Sql.Scan
import BranchDistance.Proofs.Sql.Statement
import BranchDistance.Proofs.Text.Blank
import BranchDistance.Target.OfText

/-!
# Conditions in statements

A condition may be given alone, or as the condition of a statement about the rows of one table.
Both have the same target but for the names of the tables: the condition stands at the end of the
statement, where it has the tokens that it has alone (`Sql.scan_spacedOut`), and the same reader
reads them, with two levels of nesting less at its disposal (`Sql.readStatements_of_readExpr`).

The text of a statement is taken apart into lexemes (`Target.exists_lexemes`), so that its tokens
are known (`Target.ofText?_lexemes`).  `Target.statement_agrees` puts both together.
-/

namespace BranchDistance

open Sql (Token IsLexeme Beginning)

/-! ### The words of a statement -/

namespace Sql

/-- A name of a table that needs no quotes.  The words with which sources of other kinds start are
not names of tables: `FROM LATERAL WHERE (x)` would be the call of a function named `WHERE`. -/
structure IsPlainName (t : String) : Prop where
  isWord : isWord t.toList = true
  namesTable : (Word.unquoted t.toList).NamesTable

/-- A keyword as it is written in a text. -/
def keywordLexeme (k : String) : List Char × Token := (k.toList, .ofKeyword k)

/-- A word without quotes as it is written in a text. -/
def wordLexeme (t : String) : List Char × Token := (t.toList, .word (.unquoted t.toList))

theorem isLexeme_keywordLexeme {k : String}
    (hk : k ∈ ["SELECT", "DELETE", "UPDATE", "FROM", "SET", "WHERE", "NOT", "AND", "OR"]) :
    IsLexeme (keywordLexeme k).1 (keywordLexeme k).2 := by
  have hwords : ∀ k ∈ ["SELECT", "DELETE", "UPDATE", "FROM", "SET", "WHERE", "NOT", "AND", "OR"],
      isWord k.toList = true ∧ Word.unquoted k.toList = ⟨k, none, k⟩ := by decide +kernel
  obtain ⟨hword, hunquoted⟩ := hwords k hk
  rw [keywordLexeme, Token.ofKeyword, ← hunquoted]
  exact isLexeme_of_isWord hword

theorem isLexeme_wordLexeme {t : String} (h : isWord t.toList = true) :
    IsLexeme (wordLexeme t).1 (wordLexeme t).2 :=
  isLexeme_of_isWord h

theorem IsLexeme.not_isBlank {c : Char} {tail : List Char} {t : Token}
    (h : IsLexeme (c :: tail) t) : Text.isBlank c = false := by
  obtain ⟨_, _, heq, hone⟩ := h
  cases heq
  by_contra hc
  rw [Bool.not_eq_false] at hc
  have hblank := (scanOne_of_isBlank (not_isWordStart_of_isBlank hc) hc _).symm.trans (hone [])
  cases hblank

/-- Only at the end of the text blanks are removed. -/
theorem trim_spacedOut {l : List Char × Token} (hl : IsLexeme l.1 l.2)
    (lexemes : List (List Char × Token)) {cs : List Char} (h : Text.trim cs ≠ []) :
    Text.trim (spacedOut (l :: lexemes) ++ cs) = spacedOut (l :: lexemes) ++ Text.trimEnd cs := by
  obtain ⟨before, token⟩ := l
  obtain ⟨c, tail, rfl, -⟩ := id hl
  rw [Text.trim, ← Text.trimEnd_append (Text.trimEnd_ne_nil h)]
  exact congrArg Text.trimEnd (Text.trimStart_of_not_isBlank hl.not_isBlank _)

end Sql

namespace Target

open Sql (IsPlainName spacedOut)

/-- The statements about the rows of a table that have the given text as their condition. -/
def statementTexts (t condition : String) : List String :=
  ["SELECT * FROM " ++ t ++ " WHERE " ++ condition,
    "DELETE FROM " ++ t ++ " WHERE " ++ condition,
    "UPDATE " ++ t ++ " SET a = 0 WHERE " ++ condition]

/-- Up to the condition a statement consists of lexemes, of which the first is the keyword of the
statement. -/
theorem exists_lexemes {t condition s : String} (ht : IsPlainName t)
    (hs : s ∈ statementTexts t condition) :
    ∃ k ∈ ["SELECT", "DELETE", "UPDATE"], ∃ lexemes,
      s.toList = spacedOut (Sql.keywordLexeme k :: lexemes) ++ condition.toList ∧
      (∀ l ∈ Sql.keywordLexeme k :: lexemes, IsLexeme l.1 l.2) ∧
      Beginning (.unquoted t.toList) ((Sql.keywordLexeme k :: lexemes).map (·.2)) := by
  have hkeyword {k : String} := @Sql.isLexeme_keywordLexeme k
  have hname := Sql.isLexeme_wordLexeme ht.isWord
  have hcolumn : IsLexeme (Sql.wordLexeme "a").1 (Sql.wordLexeme "a").2 :=
    Sql.isLexeme_wordLexeme (by decide +kernel)
  simp only [statementTexts, List.mem_cons, List.not_mem_nil, or_false] at hs
  rcases hs with rfl | rfl | rfl
  · refine ⟨"SELECT", by simp, [(['*'], .symbol "*"), Sql.keywordLexeme "FROM",
      Sql.wordLexeme t, Sql.keywordLexeme "WHERE"], ?_, ?_, .select⟩
    · simp [spacedOut, Sql.keywordLexeme, Sql.wordLexeme]
    · simp [hkeyword, hname, Sql.isLexeme_star]
  · refine ⟨"DELETE", by simp, [Sql.keywordLexeme "FROM", Sql.wordLexeme t,
      Sql.keywordLexeme "WHERE"], ?_, ?_, .delete⟩
    · simp [spacedOut, Sql.keywordLexeme, Sql.wordLexeme]
    · simp [hkeyword, hname]
  · refine ⟨"UPDATE", by simp, [Sql.wordLexeme t, Sql.keywordLexeme "SET", Sql.wordLexeme "a",
      (['='], .symbol "="), (['0'], .number "0" false), Sql.keywordLexeme "WHERE"], ?_, ?_,
      .update _ _ _⟩
    · simp [spacedOut, Sql.keywordLexeme, Sql.wordLexeme]
    · simp [hkeyword, hname, hcolumn, Sql.isLexeme_equals, Sql.isLexeme_zero]

/-- The keyword of a statement tells its text from a condition. -/
theorem startsStatement_keyword {k : String} (hk : k ∈ ["SELECT", "DELETE", "UPDATE"])
    (rest : List Char) : startsStatement (k.toList ++ ' ' :: rest) = true := by
  have hwords : ∀ k ∈ ["SELECT", "DELETE", "UPDATE"],
      (k.toList.all fun c => !(Text.isBlank c || c == '(')) = true ∧
      statementWords.contains (String.ofList (Text.fold k.toList)) = true := by decide +kernel
  obtain ⟨hletters, hword⟩ := hwords k hk
  rw [startsStatement, List.takeWhile_append_of_pos (List.all_eq_true.1 hletters),
    List.takeWhile_cons_of_neg (by decide), List.append_nil]
  exact hword

/-! ### The stages of reading -/

/-- A fault of a text that has too many bytes or too many tokens. -/
inductive IsOversize (text : String) : TargetError → Prop
  | bytes (h : Measure.bytes.limit < text.utf8ByteSize) :
      IsOversize text (.tooLarge .bytes text.utf8ByteSize)
  | tokens {ts : List Token} (hscan : Sql.scan text.toList = some ts)
      (h : Measure.tokens.limit < ts.length) : IsOversize text (.tooLarge .tokens ts.length)

/-- A text that is one expression, in which at most the given number of levels nest. -/
def NestsWithin (d : ℕ) (text : String) : Prop :=
  ∃ ts e, Sql.scan (Text.trimmed text).toList = some ts ∧
    Sql.Rule.expr.run (Sql.Grammar.ofDepth d) ts = .ok (e, [])

section Stages

variable {text : String} {ts : List Token} {target : Target}

/-- A text within the limits has its tokens; any other is too large, in bytes before tokens. -/
theorem tokens?_eq (h : Sql.scan text.toList = some ts) :
    tokens? text =
      if Measure.bytes.limit < text.utf8ByteSize then .error (.tooLarge .bytes text.utf8ByteSize)
      else if Measure.tokens.limit < ts.length then .error (.tooLarge .tokens ts.length)
      else .ok ts := by
  by_cases hlarge : Measure.bytes.limit < text.utf8ByteSize
  · simp [tokens?, withinLimit, hlarge, bind, Except.bind]
  · by_cases hmany : Measure.tokens.limit < ts.length
    · simp [tokens?, withinLimit, h, hlarge, hmany, bind, Except.bind]
    · simp [tokens?, withinLimit, h, hlarge, hmany, bind, Except.bind, pure, Except.pure]

theorem tokens?_of_scan (h : Sql.scan text.toList = some ts) :
    tokens? text = .ok ts ∨ ∃ fault, tokens? text = .error fault ∧ IsOversize text fault := by
  rw [tokens?_eq h]
  split
  · next hlarge => exact .inr ⟨_, rfl, .bytes hlarge⟩
  · split
    · next hlarge => exact .inr ⟨_, rfl, .tokens h hlarge⟩
    · exact .inl rfl

theorem scan_of_tokens? (h : tokens? text = .ok ts) : Sql.scan text.toList = some ts := by
  cases hscan : Sql.scan text.toList with
  | none =>
    by_cases hlarge : Measure.bytes.limit < text.utf8ByteSize
    · simp [tokens?, withinLimit, hlarge, bind, Except.bind] at h
    · simp [tokens?, withinLimit, hscan, hlarge, bind, Except.bind] at h
  | some us =>
    rcases tokens?_of_scan hscan with htokens | ⟨fault, htokens, -⟩
    · rw [htokens] at h
      exact congrArg some (Except.ok.inj h)
    · rw [htokens] at h
      cases h

/-- A target of a condition that stands alone comes from one expression, which all tokens form. -/
theorem ofExprTokens?_eq_ok (h : ofExprTokens? ts = .ok target) :
    ∃ e c, Sql.readExpr ts = .ok (e, []) ∧ Condition.ofExpr? e = .ok c ∧
      target = ofCondition c := by
  unfold ofExprTokens? at h
  split at h
  · cases h
  · cases h
  · next e he =>
    obtain ⟨c, hc, ⟨⟩⟩ := bind_eq_ok_iff.1 h
    exact ⟨e, c, he, hc, rfl⟩

theorem ofText?_eq_bind (hne : (Text.trimmed text).isEmpty = false) :
    ofText? text = tokens? (Text.trimmed text) >>= fun ts =>
      if startsStatement (Text.trimmed text).toList then ofStatementTokens? ts
      else ofExprTokens? ts := by
  unfold ofText?
  exact if_neg (Bool.eq_false_iff.1 hne)

/-- The tokens of a condition that stands alone are those of one expression. -/
theorem ofText?_bare (hbare : startsStatement (Text.trimmed text).toList = false)
    (h : ofText? text = .ok target) :
    ∃ ts e c, Text.trim text.toList ≠ [] ∧ Sql.scan (Text.trimmed text).toList = some ts ∧
      Sql.readExpr ts = .ok (e, []) ∧ Condition.ofExpr? e = .ok c ∧ target = ofCondition c := by
  cases hne : (Text.trimmed text).isEmpty with
  | true =>
    have hempty : ofText? text = .error .empty := if_pos hne
    rw [hempty] at h
    cases h
  | false =>
    rw [ofText?_eq_bind hne] at h
    obtain ⟨ts, htokens, h⟩ := bind_eq_ok_iff.1 h
    rw [if_neg (Bool.eq_false_iff.1 hbare)] at h
    obtain ⟨e, c, he, hc, rfl⟩ := ofExprTokens?_eq_ok h
    rw [← Text.toList_trimmed]
    refine ⟨ts, e, c, ?_, scan_of_tokens? htokens, he, hc, rfl⟩
    simpa using hne

/-- A text that starts with the keyword of a statement is read as one: its tokens are those of its
lexemes and then those of the rest. -/
theorem ofText?_lexemes {k : String} (hk : k ∈ ["SELECT", "DELETE", "UPDATE"])
    {lexemes : List (List Char × Token)} {cs : List Char}
    (htext : text.toList = spacedOut (Sql.keywordLexeme k :: lexemes) ++ cs)
    (hlexemes : ∀ l ∈ Sql.keywordLexeme k :: lexemes, IsLexeme l.1 l.2)
    (hne : Text.trim cs ≠ []) (hscan : Sql.scan (Text.trim cs) = some ts) :
    ofText? text = ofStatementTokens? ((Sql.keywordLexeme k :: lexemes).map (·.2) ++ ts) ∨
      ∃ fault, ofText? text = .error fault ∧ IsOversize (Text.trimmed text) fault := by
  have htrimmed : (Text.trimmed text).toList =
      spacedOut (Sql.keywordLexeme k :: lexemes) ++ Text.trimEnd cs := by
    rw [Text.toList_trimmed, htext]
    exact Sql.trim_spacedOut (hlexemes _ List.mem_cons_self) lexemes hne
  have hstarts : startsStatement (Text.trimmed text).toList = true := by
    rw [htrimmed]
    simpa [spacedOut, Sql.keywordLexeme] using startsStatement_keyword hk
      (spacedOut lexemes ++ Text.trimEnd cs)
  have hnonempty : (Text.trimmed text).isEmpty = false := by
    by_contra hempty
    rw [Bool.not_eq_false, String.isEmpty_iff] at hempty
    rw [hempty] at hstarts
    exact absurd hstarts (by decide +kernel)
  have hrest : Sql.scan (Text.trimEnd cs) = some ts :=
    Sql.scan_of_trimStart ((congrArg Sql.scan (Text.trimStart_trimEnd hne)).trans hscan)
  have htokens := Sql.scan_spacedOut hlexemes hrest
  rw [← htrimmed] at htokens
  rw [ofText?_eq_bind hnonempty]
  rcases tokens?_of_scan htokens with hread | ⟨fault, hread, hlarge⟩
  · left
    simp only [hread, bind, Except.bind, if_pos hstarts]
  · right
    rw [hread]
    exact ⟨fault, rfl, hlarge⟩

/-- The condition of a statement about the rows of a table is read as it is read alone. -/
theorem ofStatementTokens?_append {w : Sql.Word} (hw : w.NamesTable) {e : Sql.Expr}
    {c : Condition} (he : Sql.readExpr ts = .ok (e, [])) (hc : Condition.ofExpr? e = .ok c)
    {before : List Token} (hbefore : Beginning w before) :
    ofStatementTokens? (before ++ ts) =
        .ok ⟨some c, Aliases.empty, some ("SELECT * FROM " ++ w.text)⟩ ∨
      ofStatementTokens? (before ++ ts) = .error (.malformed .tooDeep) ∧
        ∀ e', Sql.Rule.expr.run (Sql.Grammar.ofDepth (Sql.depthLimit - 2)) ts ≠ .ok (e', []) := by
  rcases Sql.readStatements_of_readExpr hw he hbefore with hread | ⟨hread, hdeep⟩
  · left
    simp only [ofStatementTokens?, hread, ofStatement?, Option.mapM_some, hc]
    simp [bind, Except.bind, pure, Except.pure, aliasesOf, queryOver, String.intercalate_singleton]
  · refine .inr ⟨?_, hdeep⟩
    rw [ofStatementTokens?, hread]
    rfl

end Stages

/-- A text that stands alone as a condition may follow `WHERE` in a statement about the rows of a
table.  The statement then has the same condition, no short names, and the table as the source of
its rows.  It is refused only if it is too large, or if the condition takes one of the last two
levels. -/
theorem statement_agrees {t condition : String} {target : Target} (ht : IsPlainName t)
    (hbare : startsStatement (Text.trimmed condition).toList = false)
    (h : ofText? condition = .ok target) :
    ∃ c, target.condition = some c ∧ ∀ s ∈ statementTexts t condition,
      (∀ target', ofText? s = .ok target' →
        target' = ⟨some c, Aliases.empty, some ("SELECT * FROM " ++ t)⟩) ∧
      ∀ fault, ofText? s = .error fault → IsOversize (Text.trimmed s) fault ∨
        fault = .malformed .tooDeep ∧ ¬ NestsWithin (Sql.depthLimit - 2) condition := by
  obtain ⟨ts, e, c, hne, hscan, he, hc, rfl⟩ := ofText?_bare hbare h
  refine ⟨c, rfl, fun s hs => ?_⟩
  obtain ⟨k, hk, lexemes, htext, hlexemes, hbefore⟩ := exists_lexemes ht hs
  have hread := ofText?_lexemes hk htext hlexemes hne (Text.toList_trimmed condition ▸ hscan)
  rcases hread with hread | ⟨fault, hread, hlarge⟩
  · rw [hread]
    rcases ofStatementTokens?_append ht.namesTable he hc hbefore with hok | ⟨herror, hdeep⟩
    · rw [hok, Sql.Word.unquoted, String.ofList_toList]
      refine ⟨?_, ?_⟩
      · rintro _ ⟨⟩
        rfl
      · rintro fault ⟨⟩
    · rw [herror]
      refine ⟨?_, ?_⟩
      · rintro target' ⟨⟩
      · rintro _ ⟨⟩
        refine .inr ⟨rfl, ?_⟩
        rintro ⟨ts', e', hscan', he'⟩
        cases hscan.symm.trans hscan'
        exact hdeep e' he'
  · rw [hread]
    refine ⟨?_, ?_⟩
    · rintro target' ⟨⟩
    · rintro _ ⟨⟩
      exact .inl hlarge

/-- A condition with blanks around it and a comment at its end. -/
theorem statement_agrees_commented :
    let condition := " (x = 1 OR\n  x > 2) -- either\n"
    ∃ c, (ofText? condition).map (·.condition) = .ok (some c) ∧
      ∀ s ∈ statementTexts "users" condition,
        ofText? s = .ok ⟨some c, Aliases.empty, some "SELECT * FROM users"⟩ := by
  intro condition
  have haccepted : ∀ s ∈ condition :: statementTexts "users" condition,
      (ofText? s).isOk = true := by decide +kernel
  obtain ⟨target, htarget⟩ := exists_eq_ok (haccepted condition List.mem_cons_self)
  have hname : IsPlainName "users" :=
    ⟨by decide +kernel, rfl, by decide +kernel, by decide +kernel, by decide +kernel⟩
  obtain ⟨c, hc, hstatements⟩ := statement_agrees hname (by decide +kernel) htarget
  refine ⟨c, ?_, fun s hs => ?_⟩
  · rw [htarget, ← hc]
    rfl
  · obtain ⟨target', htarget'⟩ := exists_eq_ok (haccepted s (List.mem_cons_of_mem _ hs))
    rw [htarget', (hstatements s hs).1 target' htarget']
    rfl

end Target

end BranchDistance
