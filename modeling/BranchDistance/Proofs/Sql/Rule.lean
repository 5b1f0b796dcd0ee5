import Mathlib.Data.List.Basic
import BranchDistance.Sql.Atom

/-!
# Running rules

What the small rules do with some tokens, as equations from left to right: what a rule does with
tokens whose first is known follows by `simp`.  A repeated rule is opened one step at a time
(`run_loop_of_inr`, `run_loop_of_inl`).
-/

namespace BranchDistance.Sql

/-- Whether a token is a sign. -/
def Token.isSign (s : String) : Token → Bool
  | .symbol t => t == s
  | _ => false

@[simp] theorem Token.isSign_symbol (s t : String) : (symbol t).isSign s = (t == s) := rfl

@[simp] theorem Token.isSign_word (s : String) (w : Word) : (word w).isSign s = false := rfl

@[simp] theorem Token.keyword_word (w : Word) : (word w).keyword = w.keyword := rfl

@[simp] theorem Token.keyword_symbol (s : String) : (symbol s).keyword = "" := rfl

namespace Rule

variable {α β σ : Type} {g : Grammar} {t : Token} {ts rest : List Token}

/-! ### One rule after another -/

@[simp] theorem run_pure (a : α) : (pure a : Rule α).run g ts = .ok (a, ts) := rfl

@[simp] theorem run_mismatch : (mismatch : Rule α).run g ts = .error .mismatch := rfl

@[simp] theorem run_bind (p : Rule α) (f : α → Rule β) :
    (p >>= f).run g ts = match p.run g ts with
      | .ok (a, rest) => (f a).run g rest
      | .error e => .error e := rfl

@[simp] theorem run_discard (p : Rule α) :
    (discard p).run g ts = match p.run g ts with
      | .ok (_, rest) => .ok ((), rest)
      | .error e => .error e := rfl

/-! ### Tokens ahead -/

@[simp] theorem run_ahead : ahead.run g ts = .ok (ts, ts) := rfl

@[simp] theorem run_skip (n : ℕ) : (skip n).run g ts = .ok ((), ts.drop n) := rfl

@[simp] theorem run_next_cons : next.run g (t :: ts) = .ok (t, ts) := rfl

@[simp] theorem run_atKeyword_cons (k : String) :
    (atKeyword k).run g (t :: ts) = .ok (t.keyword == k, t :: ts) := rfl

@[simp] theorem run_keyword?_nil (k : String) : (keyword? k).run g [] = .ok (false, []) := rfl

@[simp] theorem run_keyword?_cons (k : String) :
    (keyword? k).run g (t :: ts) =
      if t.keyword = k then .ok (true, ts) else .ok (false, t :: ts) := by
  by_cases h : t.keyword = k <;> simp [keyword?, h]

@[simp] theorem run_keyword_cons (k : String) :
    (keyword k).run g (t :: ts) =
      if t.keyword = k then .ok ((), ts) else .error .mismatch := by
  by_cases h : t.keyword = k <;> simp [keyword, h]

@[simp] theorem startsWith_nil (k : String) (ks : List String) :
    startsWith (k :: ks) [] = false := rfl

@[simp] theorem startsWith_cons (k : String) (ks : List String) :
    startsWith (k :: ks) (t :: ts) = (t.keyword == k && startsWith ks ts) := rfl

theorem run_keywords? (ks : List String) :
    (keywords? ks).run g ts =
      if startsWith ks ts then .ok (true, ts.drop ks.length) else .ok (false, ts) := by
  by_cases h : startsWith ks ts = true <;> simp [keywords?, h]

/-- Keywords in a row are not there if the first is not. -/
@[simp] theorem run_keywords?_nil (k : String) (ks : List String) :
    (keywords? (k :: ks)).run g [] = .ok (false, []) := by
  rw [run_keywords?, startsWith_nil, if_neg (by simp)]

theorem run_keywords?_of_ne {k : String} (h : t.keyword ≠ k) (ks : List String) :
    (keywords? (k :: ks)).run g (t :: ts) = .ok (false, t :: ts) := by
  rw [run_keywords?, startsWith_cons, beq_false_of_ne h, Bool.false_and, if_neg (by simp)]

@[simp] theorem run_oneOf?_nil (ks : List String) : (oneOf? ks).run g [] = .ok (none, []) := rfl

theorem run_oneOf?_of_notMem {ks : List String} (h : t.keyword ∉ ks) :
    (oneOf? ks).run g (t :: ts) = .ok (none, t :: ts) := by
  simp [oneOf?, h]

@[simp] theorem run_atSymbol_cons (s : String) :
    (atSymbol s).run g (t :: ts) = .ok (t.isSign s, t :: ts) := by
  cases t <;> rfl

@[simp] theorem run_symbol?_nil (s : String) : (symbol? s).run g [] = .ok (false, []) := rfl

@[simp] theorem run_symbol?_cons (s : String) :
    (symbol? s).run g (t :: ts) =
      if t.isSign s then .ok (true, ts) else .ok (false, t :: ts) := by
  by_cases h : t.isSign s = true <;> simp [symbol?, h]

@[simp] theorem run_symbol_cons (s : String) :
    (symbol s).run g (t :: ts) = if t.isSign s then .ok ((), ts) else .error .mismatch := by
  by_cases h : t.isSign s = true <;> simp [symbol, h]

@[simp] theorem run_after?_nil (k : String) (p : Rule α) :
    (after? k p).run g [] = .ok (none, []) := by
  simp [after?]

@[simp] theorem run_after?_cons (k : String) (p : Rule α) :
    (after? k p).run g (t :: ts) =
      if t.keyword = k then
        match p.run g ts with
        | .ok (a, rest) => .ok (some a, rest)
        | .error e => .error e
      else .ok (none, t :: ts) := by
  by_cases h : t.keyword = k <;> simp [after?, h]

/-! ### Repetition -/

theorem run_loop_of_inr {step : σ → Rule (σ ⊕ α)} {s : σ} {a : α}
    (h : (step s).run g ts = .ok (.inr a, rest)) : (loop step s).run g ts = .ok (a, rest) := by
  change iterate (fun s ts => (step s).run g ts) s ts = _
  rw [iterate]
  simp only [h]

theorem run_loop_of_inl {step : σ → Rule (σ ⊕ α)} {s s' : σ}
    (h : (step s).run g ts = .ok (.inl s', rest)) (hlt : rest.length < ts.length) :
    (loop step s).run g ts = (loop step s').run g rest := by
  change iterate (fun s ts => (step s).run g ts) s ts =
    iterate (fun s ts => (step s).run g ts) s' rest
  rw [iterate]
  simp only [h, if_pos hlt]

/-- A list of one element ends where no comma follows. -/
theorem run_list_singleton {p : Rule α} {a : α} (h : p.run g ts = .ok (a, rest))
    (hcomma : ∀ t ∈ rest.head?, t.isSign "," = false) :
    (list p).run g ts = .ok ([a], rest) := by
  refine run_loop_of_inr ?_
  cases rest with
  | nil => simp [h]
  | cons t rest => simp [h, hcomma t rfl]

theorem run_many_of_none {p : Rule (Option α)} (h : p.run g ts = .ok (none, rest)) :
    (many p).run g ts = .ok ([], rest) :=
  run_loop_of_inr (by simp [h])

/-- A name of one part ends where no point follows. -/
theorem run_path_word {w : Word} (hpoint : ∀ t ∈ rest.head?, t.isSign "." = false) :
    path.run g (.word w :: rest) = .ok ([.ofWord w], rest) := by
  refine run_loop_of_inr ?_
  cases rest with
  | nil => simp [name]
  | cons t rest => simp [name, hpoint t rfl]

end Rule

end BranchDistance.Sql
