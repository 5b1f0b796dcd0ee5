import BranchDistance.Sql.Expr
import BranchDistance.Sql.Keyword

/-!
# Grammar rules

A rule reads tokens from the front of a list.  Expressions, queries and statements nest in each
other, so a rule is given a `Grammar`: the readers to use for what nests.  These run out of depth at
some nesting, and running out is told apart from text that no rule matches.

Every rule carries the proof that it is monotone: with a grammar that reaches deeper it gives the
same result, unless it ran out of depth before.  All rules are built from the few below, so this
holds for the whole grammar and is never proved again (`Grammar.ofDepth_le`).
-/

namespace BranchDistance.Sql

/-- Why a rule gives no result. -/
inductive Fault where
  /-- The tokens are not of the form that the rule reads. -/
  | mismatch
  /-- The nesting is deeper than the grammar reaches. -/
  | tooDeep
  deriving DecidableEq, Repr

/-- A result and the tokens after it, or a fault. -/
abbrev Step (α : Type) := Except Fault (α × List Token)

/-- Two results agree up to depth if they are the same, or the first ran out of depth. -/
def Step.Extends {α : Type} (a b : Step α) : Prop := a = .error .tooDeep ∨ a = b

theorem Step.Extends.trans {α : Type} {a b c : Step α} (hab : a.Extends b) (hbc : b.Extends c) :
    a.Extends c := by
  rcases hab with h | rfl
  · exact .inl h
  · exact hbc

/-- What a `SELECT` takes its rows from: its written form, and the short names that it gives to
tables directly, each with the last part of the table's name. -/
structure Source where
  text : String
  bindings : List (String × String)

/-- The part of a query that says which rows it has. -/
inductive Body where
  | select (selection : Option Expr) (sources : List Source)
  | other

/-- A query, with the written forms of the whole and of its body. -/
structure Query where
  text : String
  bodyText : String
  body : Body

/-- A statement, as far as it concerns rows. -/
inductive Statement where
  /-- A statement about the rows of some sources that satisfy a condition, or about all of them. -/
  | onRows (selection : Option Expr) (sources : List Source)
  /-- A query whose rows do not come from one `SELECT`, with the written form of its body. -/
  | compound (body : String)
  /-- The description of a table or of another statement. -/
  | description
  | other

/-- A query as a statement. -/
def Statement.ofQuery (q : Query) : Statement :=
  match q.body with
  | .select selection sources => onRows selection sources
  | .other => compound q.bodyText

/-- The readers for nested expressions, queries and statements. -/
structure Grammar where
  /-- Whether the text relates the rows of a hierarchy, where one row comes prior to another. -/
  hierarchical : Bool
  /-- Reads an expression whose operators bind more strongly than a given strength. -/
  operand : Bool → Nat → List Token → Step Expr
  query : Bool → List Token → Step Query
  statement : List Token → Step Statement

/-- A grammar that reaches at least as deep. -/
structure Grammar.Le (g h : Grammar) : Prop where
  hierarchical : g.hierarchical = h.hierarchical
  operand : ∀ b strength ts, (g.operand b strength ts).Extends (h.operand b strength ts)
  query : ∀ b ts, (g.query b ts).Extends (h.query b ts)
  statement : ∀ ts, (g.statement ts).Extends (h.statement ts)

theorem Grammar.Le.refl (g : Grammar) : g.Le g :=
  ⟨rfl, fun _ _ _ => .inr rfl, fun _ _ => .inr rfl, fun _ => .inr rfl⟩

theorem Grammar.Le.trans {g h k : Grammar} (hgh : g.Le h) (hhk : h.Le k) : g.Le k :=
  ⟨hgh.hierarchical.trans hhk.hierarchical,
    fun b strength ts => (hgh.operand b strength ts).trans (hhk.operand b strength ts),
    fun b ts => (hgh.query b ts).trans (hhk.query b ts),
    fun ts => (hgh.statement ts).trans (hhk.statement ts)⟩

/-- Two grammars stay in order for the rows of a hierarchy, and outside of one. -/
theorem Grammar.Le.within {g h : Grammar} (hle : g.Le h) (b : Bool) :
    ({ g with hierarchical := b } : Grammar).Le { h with hierarchical := b } :=
  ⟨rfl, hle.operand, hle.query, hle.statement⟩

/-- A reader of tokens that may use a grammar for what nests. -/
structure Rule (α : Type) where
  run : Grammar → List Token → Step α
  mono : ∀ {g h : Grammar}, g.Le h → ∀ ts, (run g ts).Extends (run h ts)

namespace Rule

variable {α β σ : Type}

/-- Takes nothing. -/
protected def pure (a : α) : Rule α := ⟨fun _ ts => .ok (a, ts), fun _ _ => .inr rfl⟩

/-- Goes on with a rule that depends on the first result. -/
protected def bind (p : Rule α) (f : α → Rule β) : Rule β where
  run g ts := match p.run g ts with
    | .ok (a, rest) => (f a).run g rest
    | .error e => .error e
  mono := by
    intro g h hle ts
    rcases p.mono hle ts with hp | hp
    · exact .inl (by simp [hp])
    · simp only [← hp]
      split
      · exact (f _).mono hle _
      · exact .inr rfl

instance : Monad Rule where
  pure := Rule.pure
  bind := Rule.bind

/-- Matches nothing. -/
def mismatch : Rule α := ⟨fun _ _ => .error .mismatch, fun _ _ => .inr rfl⟩

/-- The tokens ahead, none of which is taken. -/
def ahead : Rule (List Token) := ⟨fun _ ts => .ok (ts, ts), fun _ _ => .inr rfl⟩

/-- Takes a number of tokens, or all that are left. -/
def skip (n : Nat) : Rule Unit := ⟨fun _ ts => .ok ((), ts.drop n), fun _ _ => .inr rfl⟩

/-- Tries a rule: if it does not match, nothing is taken. -/
def attempt (p : Rule α) : Rule (Option α) where
  run g ts := match p.run g ts with
    | .ok (a, rest) => .ok (some a, rest)
    | .error .mismatch => .ok (none, ts)
    | .error .tooDeep => .error .tooDeep
  mono := by
    intro g h hle ts
    rcases p.mono hle ts with hp | hp
    · exact .inl (by simp [hp])
    · exact .inr (by rw [hp])

/-- A nested expression whose operators bind more strongly than `strength`. -/
def operand (strength : Nat) : Rule Expr :=
  ⟨fun g ts => g.operand g.hierarchical strength ts, fun hle ts => by
    rw [hle.hierarchical]; exact hle.operand _ strength ts⟩

/-- A nested query. -/
def query : Rule Query :=
  ⟨fun g ts => g.query g.hierarchical ts, fun hle ts => by
    rw [hle.hierarchical]; exact hle.query _ ts⟩

/-- A nested statement. -/
def nestedStatement : Rule Statement := ⟨fun g ts => g.statement ts, fun hle ts => hle.statement ts⟩

/-- Whether the text relates the rows of a hierarchy. -/
def isHierarchical : Rule Bool :=
  ⟨fun g ts => .ok (g.hierarchical, ts), fun hle ts => .inr (by rw [hle.hierarchical])⟩

/-- A rule for text that relates the rows of a hierarchy. -/
def hierarchically (p : Rule α) : Rule α :=
  ⟨fun g ts => p.run { g with hierarchical := true } ts, fun hle ts => p.mono (hle.within true) ts⟩

/-- Repeats a step until it gives a result.  A step that takes nothing and gives none does not
match, so the number of tokens bounds the number of steps. -/
def iterate (step : σ → List Token → Step (σ ⊕ α)) (s : σ) (ts : List Token) : Step α :=
  match step s ts with
  | .error e => .error e
  | .ok (.inr a, rest) => .ok (a, rest)
  | .ok (.inl s', rest) =>
    if rest.length < ts.length then iterate step s' rest else .error .mismatch
termination_by ts.length

theorem iterate_extends {f f' : σ → List Token → Step (σ ⊕ α)}
    (h : ∀ s ts, (f s ts).Extends (f' s ts)) (s : σ) (ts : List Token) :
    (iterate f s ts).Extends (iterate f' s ts) := by
  induction ts using (measure List.length).wf.induction generalizing s with
  | _ ts ih =>
    unfold iterate
    rcases h s ts with hs | hs
    · exact .inl (by simp [hs])
    · rw [hs]
      split
      · exact .inr rfl
      · exact .inr rfl
      · split
        · rename_i hlt
          exact ih _ hlt _
        · exact .inr rfl

/-- Repeats a rule that depends on a state until it gives a result. -/
def loop (step : σ → Rule (σ ⊕ α)) (s : σ) : Rule α where
  run g ts := iterate (fun s ts => (step s).run g ts) s ts
  mono := fun hle ts => iterate_extends (fun s ts => (step s).mono hle ts) s ts

/-- A rule that may use itself up to `n` levels of nesting. -/
def nestTo (body : Rule α → Rule α) : Nat → Rule α
  | 0 => mismatch
  | n + 1 =>
    ⟨fun g ts => (body (nestTo body n)).run g ts, fun hle ts => (body (nestTo body n)).mono hle ts⟩

/-- A rule that may use itself after taking at least one token. -/
def nest (body : Rule α → Rule α) : Rule α where
  run g ts := (nestTo body (ts.length + 1)).run g ts
  mono := fun hle ts => (nestTo body (ts.length + 1)).mono hle ts

/-- The next token; none is left at the end. -/
def next : Rule Token := do
  match ← ahead with
  | t :: _ => skip 1; return t
  | [] => mismatch

/-- Whether the next token is a keyword. -/
def atKeyword (k : String) : Rule Bool := do
  match ← ahead with
  | t :: _ => return t.keyword == k
  | [] => return false

/-- Takes a keyword if it is next. -/
def keyword? (k : String) : Rule Bool := do
  if ← atKeyword k then
    skip 1
    return true
  else return false

/-- Whether the tokens start with some keywords in a row. -/
def startsWith : List String → List Token → Bool
  | [], _ => true
  | _ :: _, [] => false
  | k :: ks, t :: ts => t.keyword == k && startsWith ks ts

/-- Takes some keywords in a row if they are next. -/
def keywords? (ks : List String) : Rule Bool := do
  if startsWith ks (← ahead) then
    skip ks.length
    return true
  else return false

/-- Takes the first of some keywords that is next. -/
def oneOf? (ks : List String) : Rule (Option String) := do
  match ← ahead with
  | t :: _ =>
    if t.keyword != "" ∧ ks.contains t.keyword then
      skip 1
      return some t.keyword
    else return none
  | [] => return none

/-- Takes a keyword that has to be next. -/
def keyword (k : String) : Rule Unit := do
  unless ← keyword? k do mismatch

/-- Takes some keywords that have to be next. -/
def keywords (ks : List String) : Rule Unit := do
  unless ← keywords? ks do mismatch

/-- Takes one of some keywords. -/
def oneOf (ks : List String) : Rule String := do
  match ← oneOf? ks with
  | some k => return k
  | none => mismatch

/-- Whether the next token is a sign. -/
def atSymbol (s : String) : Rule Bool := do
  match ← ahead with
  | .symbol t :: _ => return t == s
  | _ => return false

/-- Takes a sign if it is next. -/
def symbol? (s : String) : Rule Bool := do
  if ← atSymbol s then
    skip 1
    return true
  else return false

/-- Takes a sign that has to be next. -/
def symbol (s : String) : Rule Unit := do
  unless ← symbol? s do mismatch

/-- One or more of a rule with commas between them. -/
def list (p : Rule α) : Rule (List α) :=
  loop (fun before => do
    let a ← p
    if ← symbol? "," then return .inl (a :: before)
    else return .inr (a :: before).reverse) []

/-- A rule as often as it gives something. -/
def many (p : Rule (Option α)) : Rule (List α) :=
  loop (fun before => do
    match ← p with
    | some a => return .inl (a :: before)
    | none => return .inr before.reverse) []

/-- None or more of a rule with commas between them, up to a closing sign, which is not taken. -/
def listTo (closing : String) (p : Rule α) : Rule (List α) := do
  if ← atSymbol closing then return [] else list p

/-- A rule between parentheses. -/
def parenthesized (p : Rule α) : Rule α := do
  symbol "("
  let a ← p
  symbol ")"
  return a

/-- A rule if a keyword is next, which is taken. -/
def after? (k : String) (p : Rule α) : Rule (Option α) := do
  if ← keyword? k then return some (← p) else return none

/-- A whole expression. -/
def expr : Rule Expr := operand 0

/-- Whether a query is next: one that starts with `SELECT` or `WITH`. -/
def atQuery : Rule Bool := do
  return (← atKeyword "SELECT") || (← atKeyword "WITH")

end Rule

end BranchDistance.Sql
