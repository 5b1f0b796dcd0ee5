import BranchDistance.Proofs.Text.CaseFold

/-!
# Folding twice

A folded text is its own folded form (`casefold_casefold`).  The reason is that no run of capital
letters moves one of them onto another: this is read off the ends of the runs, pair by pair, and
not off their letters.
-/

namespace BranchDistance.Text

namespace CaseRun

/-- A code point is one of the capital letters of a run. -/
def Covers (run : CaseRun) (n : ℕ) : Prop :=
  run.first ≤ n ∧ n ≤ run.last ∧ (n - run.first) % run.step = 0

/-- The code point to which a run moves another. -/
def image (run : CaseRun) (n : ℕ) : ℕ := (n + run.offset).toNat

/-- The dotted capital I as a run of its own. -/
def dotted : CaseRun := ⟨0x130, 0x130, 1, 0⟩

/-- A test on the ends of two runs: the letters of the first are moved below the second or above
it, or between the letters of the second. -/
def imageMisses (run other : CaseRun) : Bool :=
  (run.image run.last).blt other.first || other.last.blt (run.image run.first) ||
    ((run.step.beq 2 || run.first.beq run.last) && other.step.beq 2 &&
      Nat.blt 0 (run.image run.first) && ((run.image run.first + other.first) % 2).beq 1)

theorem not_covers_image {run other : CaseRun} (h : run.imageMisses other = true) {n : ℕ}
    (hn : run.Covers n) : ¬ other.Covers (run.image n) := by
  obtain ⟨first, last, step, offset⟩ := run
  obtain ⟨first', last', step', offset'⟩ := other
  simp only [imageMisses, image, Bool.or_eq_true, Bool.and_eq_true, Nat.blt_eq,
    Nat.beq_eq] at h
  simp only [Covers, image] at hn ⊢
  rintro ⟨hfirst, hlast, hstep⟩
  rcases h with (hbelow | habove) | ⟨⟨⟨htwo | hone, rfl⟩, hpos⟩, hodd⟩
  · omega
  · omega
  · subst htwo
    omega
  · omega

/-- No letter of a run is moved onto a capital letter. -/
theorem all_imageMisses :
    (caseRuns.all fun run => (dotted :: caseRuns).all run.imageMisses) = true := by
  decide +kernel

end CaseRun

/-! ### Code points -/

/-- A code point stays where it is, or the run that covers it moves it. -/
theorem lowerCode_cases (runs : List CaseRun) (n : ℕ) :
    lowerCode runs n = n ∨ ∃ run ∈ runs, run.Covers n ∧ lowerCode runs n = run.image n := by
  induction runs with
  | nil => exact .inl rfl
  | cons run rest ih =>
    rw [lowerCode]
    split_ifs with hfirst hlast hstep
    · exact .inl rfl
    · exact .inr ⟨run, by simp, ⟨by omega, hlast, hstep⟩, rfl⟩
    · exact .inl rfl
    · rcases ih with hsame | ⟨other, hmem, hmoved⟩
      · exact .inl hsame
      · exact .inr ⟨other, List.mem_cons_of_mem _ hmem, hmoved⟩

/-- A code point is a lower-case form: it is not the dotted capital I, and no run moves it. -/
def IsLowerCode (n : ℕ) : Prop := n ≠ 0x130 ∧ lowerCode caseRuns n = n

theorem isLowerCode_lowerCode {n : ℕ} (h : n ≠ 0x130) : IsLowerCode (lowerCode caseRuns n) := by
  rcases lowerCode_cases caseRuns n with hsame | ⟨run, hrun, hcovers, hmoved⟩
  · rw [hsame]
    exact ⟨h, hsame⟩
  · have hmisses : ∀ other ∈ CaseRun.dotted :: caseRuns, ¬ other.Covers (run.image n) := by
      intro other hother
      have hall := List.all_eq_true.1 (List.all_eq_true.1 CaseRun.all_imageMisses run hrun)
      exact CaseRun.not_covers_image (hall other hother) hcovers
    rw [hmoved]
    constructor
    · intro hdotted
      apply hmisses CaseRun.dotted List.mem_cons_self
      rw [hdotted]
      exact ⟨le_rfl, le_rfl, rfl⟩
    · rcases lowerCode_cases caseRuns (run.image n) with hsame | ⟨other, hother, hagain, -⟩
      · exact hsame
      · exact absurd hagain (hmisses other (List.mem_cons_of_mem _ hother))

/-! ### Characters and texts -/

/-- A character is its own folded form, whatever its neighbours. -/
def IsFolded (c : Char) : Prop := ∀ before rest, foldAt before c rest = [c]

theorem isFolded_of_isLowerCode {c : Char} (h : IsLowerCode c.toNat) : IsFolded c := by
  intro before rest
  have hsigma : c ≠ 'Σ' := by
    rintro rfl
    exact absurd h.2 (by decide)
  have hdotted : c ≠ 'İ' := by
    rintro rfl
    exact h.1 rfl
  rw [foldAt_of_ne hsigma, lower, if_neg hdotted, h.2, Char.ofNat_toNat]

theorem isFolded_ofNat {n : ℕ} (h : IsLowerCode n) : IsFolded (Char.ofNat n) := by
  apply isFolded_of_isLowerCode
  by_cases hvalid : n.isValidChar
  · have hcode : (Char.ofNat n).toNat = n := by
      rw [Char.ofNat, dif_pos hvalid]
      rfl
    rw [hcode]
    exact h
  · have hcode : Char.ofNat n = '\x00' := by
      rw [Char.ofNat, dif_neg hvalid]
      rfl
    rw [hcode]
    exact ⟨by decide, by decide⟩

theorem isFolded_of_mem_foldAt {before rest : List Char} {c d : Char}
    (h : d ∈ foldAt before c rest) : IsFolded d := by
  by_cases hsigma : c = 'Σ'
  · subst hsigma
    rw [foldAt_sigma, List.mem_singleton] at h
    rw [h]
    split_ifs
    · exact isFolded_of_isLowerCode ⟨by decide, by decide⟩
    · exact isFolded_of_isLowerCode ⟨by decide, by decide⟩
  · rw [foldAt_of_ne hsigma, lower] at h
    split_ifs at h with hdotted
    · simp only [List.mem_cons, List.not_mem_nil, or_false] at h
      rcases h with rfl | rfl
      · exact isFolded_of_isLowerCode ⟨by decide, by decide⟩
      · exact isFolded_of_isLowerCode ⟨by decide, by decide⟩
    · rw [List.mem_singleton.1 h]
      apply isFolded_ofNat
      apply isLowerCode_lowerCode
      intro hcode
      apply hdotted
      rw [← Char.ofNat_toNat c, hcode]

theorem isFolded_of_mem_foldAfter {before cs : List Char} {d : Char}
    (h : d ∈ foldAfter before cs) : IsFolded d := by
  induction cs generalizing before with
  | nil => exact absurd h List.not_mem_nil
  | cons c rest ih =>
    rw [foldAfter_cons, List.mem_append] at h
    rcases h with hfirst | hrest
    · exact isFolded_of_mem_foldAt hfirst
    · exact ih hrest

theorem foldAfter_eq_self {cs : List Char} (h : ∀ c ∈ cs, IsFolded c) (before : List Char) :
    foldAfter before cs = cs := by
  induction cs generalizing before with
  | nil => rfl
  | cons c rest ih =>
    rw [foldAfter_cons, h c List.mem_cons_self, ih fun d hd => h d (List.mem_cons_of_mem _ hd)]
    rfl

/-- A folded text is its own folded form. -/
theorem casefold_casefold (s : String) : casefold (casefold s) = casefold s := by
  have hfold : fold (fold s.toList) = fold s.toList :=
    foldAfter_eq_self (fun _ hc => isFolded_of_mem_foldAfter hc) []
  rw [casefold, casefold, String.toList_ofList, hfold]

end BranchDistance.Text
