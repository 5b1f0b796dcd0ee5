import BranchDistance.Proofs.Text.Edit
import BranchDistance.Text.Pattern

/-!
# The distance to a pattern is the least one

`Matches` says which texts match a pattern.  The pattern distance is the least number of edits that
make one of them out of the text (`likeDistance_least_edits`).

The rows of costs are found from the first character on, each from the one before.  `misfit` is the
recursion behind them, read from the other end:

* every row holds the misfit of the pattern read so far, for every start of the text
  (`nextCosts_row`, `costs_eq_row`);
* no matching text is nearer than the misfit (`misfit_le_editDistance`), and one is as near
  (`exists_matches_misfit`).
-/

namespace BranchDistance.Text

/-! ### Matching -/

/-- The texts that match a pattern: `%` stands for any run of characters, `_` for any one character
and every other character for itself. -/
inductive Matches : List Char → List Char → Prop
  | nil : Matches [] []
  | run (u : List Char) {p s : List Char} (h : Matches p s) : Matches ('%' :: p) (u ++ s)
  | any (d : Char) {p s : List Char} (h : Matches p s) : Matches ('_' :: p) (d :: s)
  | literal {c : Char} (hrun : c ≠ '%') (hany : c ≠ '_') {p s : List Char} (h : Matches p s) :
    Matches (c :: p) (c :: s)

theorem Matches.single {c d : Char} (hrun : c ≠ '%') (hcd : c = '_' ∨ c = d) {p s : List Char}
    (h : Matches p s) : Matches (c :: p) (d :: s) := by
  by_cases hany : c = '_'
  · subst hany
    exact .any d h
  · obtain rfl := hcd.resolve_left hany
    exact .literal hrun hany h

theorem Matches.run_cons {p s : List Char} (h : Matches ('%' :: p) s) (d : Char) :
    Matches ('%' :: p) (d :: s) := by
  cases h with
  | run u h => exact .run (d :: u) h
  | literal hrun _ _ => exact absurd rfl hrun

theorem Matches.append {p q s u : List Char} (hp : Matches p s) (hq : Matches q u) :
    Matches (p ++ q) (s ++ u) := by
  induction hp with
  | nil => exact hq
  | run v _ ih =>
    rw [List.append_assoc]
    exact .run v ih
  | any d _ ih => exact .any d ih
  | literal hrun hany _ ih => exact .literal hrun hany ih

theorem Matches.reverse {p s : List Char} (h : Matches p s) : Matches p.reverse s.reverse := by
  induction h with
  | nil => exact .nil
  | run u _ ih =>
    rw [List.reverse_cons, List.reverse_append]
    have h := ih.append (.run u.reverse .nil)
    rwa [List.append_nil] at h
  | any d _ ih =>
    rw [List.reverse_cons, List.reverse_cons]
    exact ih.append (.any d .nil)
  | literal hrun hany _ ih =>
    rw [List.reverse_cons, List.reverse_cons]
    exact ih.append (.literal hrun hany .nil)

theorem matches_reverse_iff {p s : List Char} : Matches p.reverse s.reverse ↔ Matches p s := by
  constructor
  · intro h
    have h' := h.reverse
    rwa [List.reverse_reverse, List.reverse_reverse] at h'
  · exact Matches.reverse

/-! ### The recursion behind the costs -/

/-- The cost of a pattern against a text, by what may become of their first characters. -/
def misfit : List Char → List Char → ℕ
  | [], t => t.length
  | c :: p, [] => if c = '%' then misfit p [] else misfit p [] + 1
  | c :: p, x :: t =>
    if c = '%' then min (misfit p (x :: t)) (misfit (c :: p) t)
    else
      min (min (misfit p t + if c = '_' ∨ c = x then 0 else 1) (misfit p (x :: t) + 1))
        (misfit (c :: p) t + 1)
termination_by p t => p.length + t.length

theorem misfit_nil (t : List Char) : misfit [] t = t.length := by rw [misfit]

theorem misfit_cons_nil (c : Char) (p : List Char) :
    misfit (c :: p) [] = if c = '%' then misfit p [] else misfit p [] + 1 := by
  rw [misfit]

theorem misfit_run_cons (p : List Char) (x : Char) (t : List Char) :
    misfit ('%' :: p) (x :: t) = min (misfit p (x :: t)) (misfit ('%' :: p) t) := by
  rw [misfit, if_pos rfl]

theorem misfit_single_cons {c : Char} (h : c ≠ '%') (p : List Char) (x : Char) (t : List Char) :
    misfit (c :: p) (x :: t) =
      min (min (misfit p t + if c = '_' ∨ c = x then 0 else 1) (misfit p (x :: t) + 1))
        (misfit (c :: p) t + 1) := by
  rw [misfit, if_neg h]

theorem misfit_run_le (p t : List Char) : misfit ('%' :: p) t ≤ misfit p t := by
  cases t with
  | nil => rw [misfit_cons_nil, if_pos rfl]
  | cons x t => rw [misfit_run_cons]; exact min_le_left _ _

/-! ### No matching text is nearer -/

theorem misfit_run_le_editDistance {p s : List Char} (h : ∀ t, misfit p t ≤ editDistance t s)
    (u t : List Char) : misfit ('%' :: p) t ≤ editDistance t (u ++ s) := by
  -- on the run, and for each of its lengths on the text
  induction u generalizing t with
  | nil => exact (misfit_run_le p t).trans (h t)
  | cons d u ihu =>
    rw [List.cons_append]
    induction t with
    | nil =>
      have hnil := ihu []
      simp only [editDistance_nil_left, List.length_cons] at hnil ⊢
      omega
    | cons x t iht =>
      -- an edit of the text at its first character is no better than the run's passing over it
      have hskip : misfit ('%' :: p) (x :: t) ≤ misfit ('%' :: p) t := by
        rw [misfit_run_cons]
        exact min_le_right _ _
      have hdiagonal := ihu t
      have hinsert := ihu (x :: t)
      rw [editDistance_cons_cons]
      omega

theorem misfit_single_le_editDistance {c d : Char} (hrun : c ≠ '%') (hcd : c = '_' ∨ c = d)
    {p s : List Char} (h : ∀ t, misfit p t ≤ editDistance t s) (t : List Char) :
    misfit (c :: p) t ≤ editDistance t (d :: s) := by
  induction t with
  | nil =>
    have hnil := h []
    rw [misfit_cons_nil, if_neg hrun]
    simp only [editDistance_nil_left, List.length_cons] at hnil ⊢
    omega
  | cons x t ih =>
    have hdiagonal := h t
    have hinsert := h (x :: t)
    have hstep : (if c = '_' ∨ c = x then 0 else 1) ≤ if x = d then 0 else 1 := by
      by_cases hxd : x = d
      · subst hxd
        rw [if_pos hcd, if_pos rfl]
      · rw [if_neg hxd]
        split <;> omega
    rw [misfit_single_cons hrun, editDistance_cons_cons]
    omega

theorem misfit_le_editDistance {p s : List Char} (h : Matches p s) (t : List Char) :
    misfit p t ≤ editDistance t s := by
  induction h generalizing t with
  | nil => rw [misfit_nil, editDistance_nil_right]
  | run u _ ih => exact misfit_run_le_editDistance ih u t
  | any d _ ih => exact misfit_single_le_editDistance (by decide) (.inl rfl) ih t
  | literal hrun _ _ ih => exact misfit_single_le_editDistance hrun (.inr rfl) ih t

/-! ### One matching text is as near -/

theorem exists_matches_misfit (p t : List Char) :
    ∃ s, Matches p s ∧ editDistance t s ≤ misfit p t := by
  fun_induction misfit p t with
  | case1 t => exact ⟨[], .nil, by rw [editDistance_nil_right]⟩
  | case2 p ih =>
    obtain ⟨s, hs, hle⟩ := ih
    exact ⟨s, .run [] hs, hle⟩
  | case3 c p hrun ih =>
    obtain ⟨s, hs, hle⟩ := ih
    refine ⟨c :: s, hs.single hrun (.inr rfl), ?_⟩
    simp only [editDistance_nil_left, List.length_cons] at hle ⊢
    omega
  | case4 p x t ihstop ihskip =>
    rcases min_choice (misfit p (x :: t)) (misfit ('%' :: p) t) with h | h
    · rw [h]
      obtain ⟨s, hs, hle⟩ := ihstop
      exact ⟨s, .run [] hs, hle⟩
    · -- the run passes over the character
      rw [h]
      obtain ⟨s, hs, hle⟩ := ihskip
      refine ⟨x :: s, hs.run_cons x, ?_⟩
      have hcons := editDistance_cons_cons_le x x t s
      rw [if_pos rfl] at hcons
      omega
  | case5 c p x t hrun ihdiagonal ihinsert ihdelete =>
    rcases min_choice
      (min (misfit p t + if c = '_' ∨ c = x then 0 else 1) (misfit p (x :: t) + 1))
      (misfit (c :: p) t + 1) with h | h
    · rw [h]
      rcases min_choice (misfit p t + if c = '_' ∨ c = x then 0 else 1) (misfit p (x :: t) + 1)
        with h | h
      · rw [h]
        obtain ⟨s, hs, hle⟩ := ihdiagonal
        by_cases hcx : c = '_' ∨ c = x
        · refine ⟨x :: s, hs.single hrun hcx, ?_⟩
          have hcons := editDistance_cons_cons_le x x t s
          rw [if_pos rfl] at hcons
          omega
        · refine ⟨c :: s, hs.single hrun (.inr rfl), ?_⟩
          have hcons := editDistance_cons_cons_le x c t s
          rw [if_neg hcx]
          split at hcons <;> omega
      · rw [h]
        obtain ⟨s, hs, hle⟩ := ihinsert
        refine ⟨c :: s, hs.single hrun (.inr rfl), ?_⟩
        have hcons := editDistance_cons_right_le (x :: t) c s
        omega
    · rw [h]
      obtain ⟨s, hs, hle⟩ := ihdelete
      refine ⟨s, hs, ?_⟩
      have hcons := editDistance_cons_left_le x t s
      omega

/-! ### Rows of costs -/

/-- The starts of a text that go beyond `u`, each read from its last character on; `u` is so
read as well. -/
def startsBeyond (u : List Char) : List Char → List (List Char)
  | [] => []
  | c :: rest => (c :: u) :: startsBeyond (c :: u) rest

/-- The misfits of a pattern for all starts of a text. -/
def row (p text : List Char) : List ℕ := misfit p [] :: (startsBeyond [] text).map (misfit p)

/-- A sweep over the costs of a pattern gives those of the pattern with one character more. -/
theorem sweep_map (c : Char) (p u rest : List Char) :
    sweep c (misfit (c :: p) u) (misfit p u) rest ((startsBeyond u rest).map (misfit p)) =
      (startsBeyond u rest).map (misfit (c :: p)) := by
  -- the cost to the left and the one before it belong to the start `u`, which grows by a character
  induction rest generalizing u with
  | nil => rfl
  | cons x rest ih =>
    have hcost : (if c = '%' then Nat.min (misfit p (x :: u)) (misfit (c :: p) u)
        else Nat.min (Nat.min (misfit p u + if c = '_' ∨ c = x then 0 else 1)
          (misfit p (x :: u) + 1)) (misfit (c :: p) u + 1)) = misfit (c :: p) (x :: u) := by
      rw [misfit]
    simp only [startsBeyond, List.map_cons, sweep, hcost]
    rw [ih]

/-- One more character of the pattern takes one row to the next. -/
theorem nextCosts_row (c : Char) (p text : List Char) :
    nextCosts c text (row p text) = row (c :: p) text := by
  simp only [nextCosts, row, ← misfit_cons_nil]
  rw [sweep_map]

theorem range_eq_lengths (u rest : List Char) :
    List.range' u.length (rest.length + 1) =
      u.length :: (startsBeyond u rest).map List.length := by
  induction rest generalizing u with
  | nil => rfl
  | cons c rest ih =>
    rw [List.length_cons, List.range'_succ, startsBeyond, List.map_cons, ← ih (c :: u)]
    rfl

theorem row_nil (text : List Char) : row [] text = List.range (text.length + 1) := by
  have hlength : misfit [] = List.length := funext misfit_nil
  rw [row, hlength, List.range_eq_range', ← List.length_nil (α := Char), range_eq_lengths]

theorem foldl_nextCosts (p pattern text : List Char) :
    pattern.foldl (fun former c => nextCosts c text former) (row p text) =
      row (pattern.reverse ++ p) text := by
  induction pattern generalizing p with
  | nil => rfl
  | cons c pattern ih =>
    rw [List.foldl_cons, nextCosts_row, ih, List.reverse_cons, List.append_assoc]
    rfl

/-- The costs after a pattern are its misfits. -/
theorem costs_eq_row (text pattern : List Char) :
    costs text pattern = row pattern.reverse text := by
  rw [costs, ← row_nil, foldl_nextCosts, List.append_nil]

theorem getLastD_starts (f : List Char → ℕ) (u rest : List Char) (d : ℕ) :
    (f u :: (startsBeyond u rest).map f).getLastD d = f (rest.reverse ++ u) := by
  induction rest generalizing u d with
  | nil => rfl
  | cons c rest ih =>
    rw [startsBeyond, List.map_cons, List.getLastD_cons, ih, List.reverse_cons, List.append_assoc]
    rfl

theorem patternDistance_eq_misfit (text pattern : List Char) :
    patternDistance text pattern = misfit pattern.reverse text.reverse := by
  rw [patternDistance, costs_eq_row, row, getLastD_starts, List.append_nil]

/-! ### The least number of edits -/

/-- A number is the distance of a text from a pattern. -/
structure IsPatternDistance (text pattern : List Char) (n : ℕ) : Prop where
  /-- It is attained by a matching text, and no other matching text is nearer. -/
  isLeast : IsLeast {m | ∃ s, Matches pattern s ∧ m = editDistance text s} n
  eq_zero_iff : n = 0 ↔ Matches pattern text

theorem isLeast_patternDistance (text pattern : List Char) :
    IsLeast {m | ∃ s, Matches pattern s ∧ m = editDistance text s}
      (patternDistance text pattern) := by
  have hlower (s : List Char) (hs : Matches pattern s) :
      patternDistance text pattern ≤ editDistance text s := by
    rw [patternDistance_eq_misfit, ← editDistance_reverse]
    exact misfit_le_editDistance hs.reverse text.reverse
  constructor
  · obtain ⟨s, hs, hle⟩ := exists_matches_misfit pattern.reverse text.reverse
    rw [← patternDistance_eq_misfit, ← List.reverse_reverse s, editDistance_reverse] at hle
    have hmatch : Matches pattern s.reverse := by
      rwa [← List.reverse_reverse s, matches_reverse_iff] at hs
    exact ⟨s.reverse, hmatch, Nat.le_antisymm (hlower s.reverse hmatch) hle⟩
  · rintro m ⟨s, hs, rfl⟩
    exact hlower s hs

theorem isPatternDistance (text pattern : List Char) :
    IsPatternDistance text pattern (patternDistance text pattern) where
  isLeast := isLeast_patternDistance text pattern
  eq_zero_iff := by
    obtain ⟨⟨s, hs, heq⟩, hle⟩ := isLeast_patternDistance text pattern
    constructor
    · intro hzero
      rw [hzero, eq_comm, editDistance_eq_zero_iff] at heq
      rwa [heq]
    · intro hmatch
      have h := hle ⟨text, hmatch, rfl⟩
      rw [editDistance_eq_zero_iff.2 rfl] at h
      exact Nat.le_zero.1 h

/-- The distance of a text from a pattern is the least number of edits that make it match, and zero
if it matches; without regard to case it is so of the folded forms. -/
theorem likeDistance_least_edits (text pattern : String) :
    (∀ a b, IsLeast {n | Edits n a b} (editDistance a b)) ∧
      IsPatternDistance text.toList pattern.toList (likeDistance text pattern false) ∧
      IsPatternDistance (casefold text).toList (casefold pattern).toList
        (likeDistance text pattern true) := by
  refine ⟨isLeast_editDistance, isPatternDistance _ _, ?_⟩
  have hfold (s : String) : (casefold s).toList = fold s.toList := String.toList_ofList
  rw [hfold, hfold]
  exact isPatternDistance _ _

end BranchDistance.Text
