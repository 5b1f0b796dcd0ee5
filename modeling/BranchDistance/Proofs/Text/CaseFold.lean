import BranchDistance.Proofs.Text.Pattern

/-!
# Matching without regard to case

Text and pattern are folded before they are compared.  A text that matches a pattern keeps matching
it, but for two peculiarities of lower case:

* the dotted capital I, which a `_` takes for one character, has a form of two;
* a capital sigma has one form at the end of a word and another elsewhere, and a wildcard beside it
  hides from the pattern what stands beside it in the text.

Each of them costs at most one edit (`likeDistance_foldCase`).
-/

namespace BranchDistance.Text

/-! ### The neighbours of a character that a pattern leaves open -/

/-- Whether the first character that is not passed over may stand for a cased one. -/
def mayBeCased (p : List Char) : Bool :=
  match p.dropWhile isCaseIgnorable with
  | [] => false
  | c :: _ => isCased c || c = '%' || c = '_'

/-- Whether every text that matches the pattern has the same form of a capital sigma between what
matches `before`, nearest first, and what matches `rest`. -/
def isSettled (before rest : List Char) : Bool :=
  (nextIsCased before && !mayBeCased rest) == (mayBeCased before && !nextIsCased rest)

/-- The number of capital sigmas of a pattern whose form is not settled, for a pattern whose
predecessors, nearest first, are `before`. -/
def unsettledAfter (before : List Char) : List Char → ℕ
  | [] => 0
  | c :: rest =>
    (if c = 'Σ' ∧ isSettled before rest = false then 1 else 0) + unsettledAfter (c :: before) rest

/-- The number of capital sigmas of a pattern whose form is not settled. -/
def unsettled (p : List Char) : ℕ := unsettledAfter [] p

theorem unsettledAfter_of_ne {c : Char} (h : c ≠ 'Σ') (before rest : List Char) :
    unsettledAfter before (c :: rest) = unsettledAfter (c :: before) rest := by
  rw [unsettledAfter, if_neg fun hc => h hc.1, Nat.zero_add]

theorem unsettledAfter_of_notMem {p : List Char} (h : 'Σ' ∉ p) (before : List Char) :
    unsettledAfter before p = 0 := by
  induction p generalizing before with
  | nil => rfl
  | cons c p ih =>
    obtain ⟨hc, hp⟩ := not_or.1 (mt List.mem_cons.2 h)
    rw [unsettledAfter_of_ne (Ne.symm hc), ih hp]

theorem nextIsCased_ignorable {c : Char} (h : isCaseIgnorable c = true) (cs : List Char) :
    nextIsCased (c :: cs) = nextIsCased cs := by
  rw [nextIsCased, List.dropWhile_cons_of_pos h, nextIsCased]

theorem nextIsCased_other {c : Char} (h : ¬ isCaseIgnorable c = true) (cs : List Char) :
    nextIsCased (c :: cs) = isCased c := by
  rw [nextIsCased, List.dropWhile_cons_of_neg h]

theorem mayBeCased_ignorable {c : Char} (h : isCaseIgnorable c = true) (cs : List Char) :
    mayBeCased (c :: cs) = mayBeCased cs := by
  rw [mayBeCased, List.dropWhile_cons_of_pos h, mayBeCased]

theorem mayBeCased_other {c : Char} (h : ¬ isCaseIgnorable c = true) (cs : List Char) :
    mayBeCased (c :: cs) = (isCased c || c = '%' || c = '_') := by
  rw [mayBeCased, List.dropWhile_cons_of_neg h]

/-- Behind a wildcard nothing is known. -/
theorem nextIsCased_run (p : List Char) : nextIsCased ('%' :: p) = false :=
  nextIsCased_other (by decide) p

theorem mayBeCased_run (p : List Char) : mayBeCased ('%' :: p) = true :=
  mayBeCased_other (by decide) p

theorem nextIsCased_any (p : List Char) : nextIsCased ('_' :: p) = false :=
  nextIsCased_other (by decide) p

theorem mayBeCased_any (p : List Char) : mayBeCased ('_' :: p) = true :=
  mayBeCased_other (by decide) p

/-- A pattern has no wildcards. -/
def IsPlain (p : List Char) : Prop := '%' ∉ p ∧ '_' ∉ p

theorem isPlain_cons {c : Char} {p : List Char} :
    IsPlain (c :: p) ↔ (c ≠ '%' ∧ c ≠ '_') ∧ IsPlain p := by
  simp only [IsPlain, List.mem_cons, not_or, ne_comm, and_assoc, ne_eq]
  tauto

theorem IsPlain.mayBeCased_eq {p : List Char} (h : IsPlain p) : mayBeCased p = nextIsCased p := by
  induction p with
  | nil => rfl
  | cons c p ih =>
    obtain ⟨⟨hrun, hany⟩, hp⟩ := isPlain_cons.1 h
    by_cases hc : isCaseIgnorable c = true
    · rw [mayBeCased_ignorable hc, nextIsCased_ignorable hc, ih hp]
    · rw [mayBeCased_other hc, nextIsCased_other hc]
      simp [hrun, hany]

theorem IsPlain.unsettledAfter_eq_zero {p before : List Char} (h : IsPlain p)
    (hbefore : IsPlain before) : unsettledAfter before p = 0 := by
  induction p generalizing before with
  | nil => rfl
  | cons c p ih =>
    obtain ⟨hc, hp⟩ := isPlain_cons.1 h
    have hsettled : isSettled before p = true := by
      rw [isSettled, hp.mayBeCased_eq, hbefore.mayBeCased_eq, beq_self_eq_true]
    rw [unsettledAfter, ih hp (isPlain_cons.2 ⟨hc, hbefore⟩), hsettled]
    simp

/-- What a pattern says of its first character holds in the texts that match it. -/
theorem Matches.nextIsCased_le {p t : List Char} (h : Matches p t) :
    nextIsCased p ≤ nextIsCased t ∧ nextIsCased t ≤ mayBeCased p := by
  induction h with
  | nil => decide
  | run u h ih => rw [nextIsCased_run, mayBeCased_run]; exact ⟨bot_le, le_top⟩
  | any d h ih => rw [nextIsCased_any, mayBeCased_any]; exact ⟨bot_le, le_top⟩
  | @literal c hrun hany p s h ih =>
    by_cases hc : isCaseIgnorable c = true
    · rwa [nextIsCased_ignorable hc, nextIsCased_ignorable hc, mayBeCased_ignorable hc]
    · rw [nextIsCased_other hc, nextIsCased_other hc, mayBeCased_other hc]
      simp [hrun, hany]

/-! ### The folded forms of single characters -/

/-- The folded form of a character between `before`, nearest first, and `rest`. -/
def foldAt (before : List Char) (c : Char) (rest : List Char) : List Char :=
  if c = 'Σ' then
    if nextIsCased before && !nextIsCased rest then ['ς'] else ['σ']
  else lower c

theorem foldAfter_cons (before : List Char) (c : Char) (rest : List Char) :
    foldAfter before (c :: rest) = foldAt before c rest ++ foldAfter (c :: before) rest := rfl

theorem foldAt_sigma (before rest : List Char) :
    foldAt before 'Σ' rest = [if nextIsCased before && !nextIsCased rest then 'ς' else 'σ'] := by
  rw [foldAt, if_pos rfl]
  split <;> rfl

theorem foldAt_of_ne {c : Char} (h : c ≠ 'Σ') (before rest : List Char) :
    foldAt before c rest = lower c := if_neg h

/-- But for the dotted capital I every form is one character long. -/
theorem exists_foldAt_eq {c : Char} (h : c ≠ 'İ') (before rest : List Char) :
    ∃ x, foldAt before c rest = [x] := by
  by_cases hc : c = 'Σ'
  · subst hc
    exact ⟨_, foldAt_sigma before rest⟩
  · rw [foldAt_of_ne hc, lower, if_neg h]
    exact ⟨_, rfl⟩

/-- A part of a text is folded on its own, once its neighbours are known. -/
theorem exists_foldAfter_append (before u rest : List Char) :
    ∃ v, foldAfter before (u ++ rest) = v ++ foldAfter (u.reverse ++ before) rest := by
  induction u generalizing before with
  | nil => exact ⟨[], rfl⟩
  | cons c u ih =>
    obtain ⟨v, hv⟩ := ih (c :: before)
    refine ⟨foldAt before c (u ++ rest) ++ v, ?_⟩
    rw [List.cons_append, foldAfter_cons, hv, List.append_assoc, List.reverse_cons,
      List.append_assoc]
    rfl

/-- A settled sigma has the same form in a pattern and in the texts that match it. -/
theorem foldAt_sigma_eq {bp bt p t : List Char} (hb : Matches bp bt) (h : Matches p t)
    (hs : isSettled bp p = true) : foldAt bt 'Σ' t = foldAt bp 'Σ' p := by
  have hbefore := hb.nextIsCased_le
  have hrest := h.nextIsCased_le
  have hfinal : (nextIsCased bt && !nextIsCased t) = (nextIsCased bp && !nextIsCased p) := by
    rw [isSettled] at hs
    revert hbefore hrest hs
    generalize nextIsCased bp = a, nextIsCased bt = b, mayBeCased bp = c, nextIsCased p = d,
      nextIsCased t = e, mayBeCased p = f
    revert a b c d e f
    decide
  rw [foldAt_sigma, foldAt_sigma, hfinal]

/-! ### Folded texts and patterns -/

/-- Every text matches itself. -/
theorem Matches.refl (cs : List Char) : Matches cs cs := by
  induction cs with
  | nil => exact .nil
  | cons c cs ih =>
    by_cases hc : c = '%'
    · subst hc
      exact .run ['%'] ih
    · exact ih.single hc (.inr rfl)

theorem editDistance_append_le (v a b : List Char) :
    editDistance (v ++ a) (v ++ b) ≤ editDistance a b := by
  induction v with
  | nil => rfl
  | cons x v ih =>
    have h := editDistance_cons_cons_le x x (v ++ a) (v ++ b)
    rw [if_pos rfl] at h
    exact h.trans ih

/-- A text is within some edits of a pattern, both folded behind what comes before them, nearest
first. -/
def FoldsWithin (n : ℕ) (bp p bt t : List Char) : Prop :=
  ∃ s, Matches (foldAfter bp p) s ∧ editDistance (foldAfter bt t) s ≤ n

namespace FoldsWithin

variable {n m : ℕ} {bp p bt t : List Char} {c d : Char}

/-- One more character on both sides, whose forms are `m` edits apart. -/
theorem cons (h : FoldsWithin n (c :: bp) p (d :: bt) t) {s : List Char}
    (hs : Matches (foldAt bp c p) s)
    (hm : ∀ a b, editDistance (foldAt bt d t ++ a) (s ++ b) ≤ editDistance a b + m) :
    FoldsWithin (m + n) bp (c :: p) bt (d :: t) := by
  obtain ⟨s', hs', hle⟩ := h
  refine ⟨s ++ s', hs.append hs', ?_⟩
  have h := hm (foldAfter (d :: bt) t) s'
  rw [foldAfter_cons]
  omega

/-- A run passes over any part of the text. -/
theorem run (u : List Char) (h : FoldsWithin n ('%' :: bp) p (u.reverse ++ bt) t) :
    FoldsWithin n bp ('%' :: p) bt (u ++ t) := by
  obtain ⟨s, hs, hle⟩ := h
  obtain ⟨v, hv⟩ := exists_foldAfter_append bt u t
  refine ⟨v ++ s, ?_, ?_⟩
  · exact .run v hs
  · rw [hv]
    exact (editDistance_append_le _ _ _).trans hle

/-- A `_` takes every character, but leaves one half of the form of the dotted capital I. -/
theorem any (h : FoldsWithin n ('_' :: bp) p (d :: bt) t) :
    FoldsWithin ((if d = 'İ' then 1 else 0) + n) bp ('_' :: p) bt (d :: t) := by
  have hany : foldAt bp '_' p = ['_'] := foldAt_of_ne (by decide) bp p
  have hone (x : Char) : Matches (foldAt bp '_' p) [x] := by
    rw [hany]
    exact .any x .nil
  by_cases hd : d = 'İ'
  · subst hd
    have hform : foldAt bt 'İ' t = ['i', '\u0307'] := foldAt_of_ne (by decide) bt t
    apply h.cons (hone '\u0307')
    intro a b
    rw [hform, if_pos rfl]
    have hfirst := editDistance_cons_left_le 'i' ('\u0307' :: a) ('\u0307' :: b)
    have hrest := editDistance_append_le ['\u0307'] a b
    simp only [List.cons_append, List.nil_append] at hrest ⊢
    omega
  · obtain ⟨x, hx⟩ := exists_foldAt_eq hd bt t
    apply h.cons (hone x)
    intro a b
    rw [hx, if_neg hd]
    exact editDistance_append_le [x] a b

/-- A character matches itself in lower case, unless it is a sigma that is not settled. -/
theorem literal (hb : Matches bp bt) (ht : Matches p t)
    (h : FoldsWithin n (c :: bp) p (c :: bt) t) :
    FoldsWithin ((if c = 'Σ' ∧ isSettled bp p = false then 1 else 0) + n)
      bp (c :: p) bt (c :: t) := by
  by_cases hopen : c = 'Σ' ∧ isSettled bp p = false
  · rw [if_pos hopen]
    obtain ⟨rfl, -⟩ := hopen
    apply h.cons (Matches.refl _)
    intro a b
    have hone (x y : Char) : (if x = y then 0 else 1) ≤ 1 := by split <;> omega
    rw [foldAt_sigma, foldAt_sigma]
    exact (editDistance_cons_cons_le _ _ a b).trans (Nat.add_le_add_left (hone _ _) _)
  · rw [if_neg hopen]
    have hsame : foldAt bt c t = foldAt bp c p := by
      by_cases hc : c = 'Σ'
      · subst hc
        exact foldAt_sigma_eq hb ht (by simpa using hopen)
      · rw [foldAt_of_ne hc, foldAt_of_ne hc]
    apply h.cons (Matches.refl _)
    intro a b
    rw [hsame]
    exact editDistance_append_le _ a b

end FoldsWithin

/-- Folding brings a matching text out of reach by one edit for each dotted capital I that a `_`
takes, and for each sigma that is not settled. -/
theorem Matches.foldsWithin {p t : List Char} (h : Matches p t) {bp bt : List Char}
    (hb : Matches bp bt) :
    ∃ k ≤ min (t.count 'İ') (p.count '_'),
      FoldsWithin (k + unsettledAfter bp p) bp p bt t := by
  -- what has been read matches as well, so a sigma sees the same neighbours on both sides
  induction h generalizing bp bt with
  | nil => exact ⟨0, Nat.zero_le _, [], .nil, by simp [foldAfter]⟩
  | @run u p t h ih =>
    obtain ⟨k, hk, hfolds⟩ := ih (.run u.reverse hb)
    refine ⟨k, ?_, ?_⟩
    · rw [List.count_append, List.count_cons_of_ne (by decide)]
      omega
    · rw [unsettledAfter_of_ne (by decide)]
      exact hfolds.run u
  | @any d p t h ih =>
    obtain ⟨k, hk, hfolds⟩ := ih (.any d hb)
    refine ⟨(if d = 'İ' then 1 else 0) + k, ?_, ?_⟩
    · rw [List.count_cons, List.count_cons_self]
      simp only [beq_iff_eq]
      split <;> omega
    · rw [unsettledAfter_of_ne (by decide), Nat.add_assoc]
      exact hfolds.any
  | @literal c hrun hany p t h ih =>
    obtain ⟨k, hk, hfolds⟩ := ih (.literal hrun hany hb)
    refine ⟨k, ?_, ?_⟩
    · rw [List.count_cons, List.count_cons_of_ne hany]
      omega
    · rw [unsettledAfter, Nat.add_left_comm]
      exact hfolds.literal hb h

/-- If a text matches a pattern, the folded text is no farther from the folded pattern than there
are dotted capitals I for a `_` to take and capital sigmas that are not settled.  So it matches if
the pattern has no wildcards, or if neither peculiarity can arise. -/
theorem likeDistance_foldCase (text pattern : String)
    (h : likeDistance text pattern false = 0) :
    likeDistance text pattern true ≤
        min (text.toList.count 'İ') (pattern.toList.count '_') + unsettled pattern.toList ∧
      (IsPlain pattern.toList ∨
          'Σ' ∉ pattern.toList ∧ ('İ' ∉ text.toList ∨ '_' ∉ pattern.toList) →
        likeDistance text pattern true = 0) := by
  have hmatch : Matches pattern.toList text.toList :=
    (isPatternDistance text.toList pattern.toList).eq_zero_iff.1 h
  obtain ⟨k, hk, s, hs, hle⟩ := hmatch.foldsWithin .nil
  have hnear : likeDistance text pattern true ≤ editDistance (fold text.toList) s :=
    (isPatternDistance (fold text.toList) (fold pattern.toList)).isLeast.2 ⟨s, hs, rfl⟩
  have hfold : editDistance (fold text.toList) s ≤ k + unsettled pattern.toList := hle
  refine ⟨by omega, ?_⟩
  rintro (hplain | ⟨hsigma, hdotted⟩)
  · have hopen : unsettled pattern.toList = 0 := hplain.unsettledAfter_eq_zero ⟨by simp, by simp⟩
    rw [List.count_eq_zero_of_not_mem hplain.2, Nat.min_zero] at hk
    omega
  · have hopen : unsettled pattern.toList = 0 := unsettledAfter_of_notMem hsigma []
    rcases hdotted with hdotted | hany
    · rw [List.count_eq_zero_of_not_mem hdotted, Nat.zero_min] at hk
      omega
    · rw [List.count_eq_zero_of_not_mem hany, Nat.min_zero] at hk
      omega

/-- A dotted capital I and a sigma at the end of a word, with an edit for each, and a text without
either. -/
theorem likeDistance_foldCase_word :
    likeDistance "İΑΣ" "_%Σ" false = 0 ∧ likeDistance "İΑΣ" "_%Σ" true ≤ 2 ∧
      likeDistance "ΑΒ" "_Β" true = 0 := by
  have hlike : likeDistance "İΑΣ" "_%Σ" false = 0 := by decide
  have hbound : min ("İΑΣ".toList.count 'İ') ("_%Σ".toList.count '_') +
      unsettled "_%Σ".toList = 2 := by decide
  have hle := (likeDistance_foldCase "İΑΣ" "_%Σ" hlike).1
  rw [hbound] at hle
  refine ⟨hlike, hle, ?_⟩
  exact (likeDistance_foldCase "ΑΒ" "_Β" (by decide)).2 (.inr ⟨by decide, .inl (by decide)⟩)

/-- A dotted capital I for a `_`, and a sigma at the end of a word that a wildcard may begin. -/
theorem likeDistance_foldCase_ne_zero :
    likeDistance "İ" "_" false = 0 ∧ likeDistance "İ" "_" true = 1 ∧
      likeDistance "ΑΣ" "%Σ" false = 0 ∧ likeDistance "ΑΣ" "%Σ" true = 1 := by
  decide

end BranchDistance.Text
