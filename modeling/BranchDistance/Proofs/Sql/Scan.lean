import Mathlib.Data.List.Basic
import BranchDistance.Sql.Scan

/-!
# Scanning from left to right

What comes before a text does not change its tokens, as long as it ends at a token of its own.

* Steps that are left over do no harm (`scanFrom_add`).
* A lexeme is a text that is one token before every blank (`IsLexeme`); a text that starts with a
  lexeme and a blank has its token and then the tokens of the rest (`IsLexeme.scan`).
* Blanks at the start of a text give no tokens (`scan_of_trimStart`).
-/

namespace BranchDistance.Sql

open Text (isAlphabetic isBlank trimStart)

/-! ### Steps -/

/-- With more steps, and after other tokens, a text has the tokens that it has alone. -/
theorem scanFrom_add {fuel : ℕ} {before ts : List Token} {cs : List Char}
    (h : scanFrom fuel before cs = some ts) :
    ∃ us, ts = before.reverse ++ us ∧ ∀ k before',
      scanFrom (fuel + k) before' cs = some (before'.reverse ++ us) := by
  induction fuel generalizing before cs with
  | zero =>
    cases cs with
    | nil =>
      cases h
      exact ⟨[], by simp, fun k before' => by cases k <;> simp [scanFrom]⟩
    | cons c rest => cases h
  | succ fuel ih =>
    cases cs with
    | nil =>
      cases h
      exact ⟨[], by simp, fun k before' => by rw [Nat.succ_add]; simp [scanFrom]⟩
    | cons c rest =>
      rw [scanFrom] at h
      rcases hone : scanOne c rest with _ | ⟨_ | token, after⟩
      · rw [hone] at h
        cases h
      · rw [hone] at h
        obtain ⟨us, rfl, hus⟩ := ih h
        refine ⟨us, rfl, fun k before' => ?_⟩
        rw [Nat.succ_add, scanFrom, hone]
        exact hus k before'
      · rw [hone] at h
        obtain ⟨us, rfl, hus⟩ := ih h
        refine ⟨token :: us, by simp, fun k before' => ?_⟩
        rw [Nat.succ_add, scanFrom, hone]
        exact (hus k _).trans (by simp)

theorem scanFrom_of_scan {cs : List Char} {ts : List Token} (h : scan cs = some ts) {fuel : ℕ}
    (hfuel : cs.length ≤ fuel) (before : List Token) :
    scanFrom fuel before cs = some (before.reverse ++ ts) := by
  obtain ⟨us, rfl, hus⟩ := scanFrom_add h
  have := hus (fuel - cs.length) before
  rwa [Nat.add_sub_cancel' hfuel] at this

theorem scanOne_of_isWordStart {c : Char} (h : isWordStart c = true) (rest : List Char) :
    scanOne c rest = scanIntroduced c rest := by
  delta scanOne
  exact if_pos h

theorem scanOne_of_isBlank {c : Char} (h : isWordStart c = false) (hc : isBlank c = true)
    (rest : List Char) : scanOne c rest = some (none, rest) := by
  delta scanOne
  exact (if_neg (Bool.eq_false_iff.1 h)).trans (if_pos hc)

/-! ### Blanks -/

theorem not_isWordStart_of_isBlank {c : Char} (h : isBlank c = true) : isWordStart c = false := by
  have hcode : ∀ n ∈ [9, 10, 11, 12, 13, 0x20, 0x85, 0xA0, 0x1680, 0x2000, 0x2001, 0x2002, 0x2003,
      0x2004, 0x2005, 0x2006, 0x2007, 0x2008, 0x2009, 0x200A, 0x2028, 0x2029, 0x202F, 0x205F,
      0x3000], Text.inRanges Text.alphabeticRanges n = false := by decide +kernel
  have hletter : isAlphabetic c = false := by
    refine hcode c.toNat ?_
    simp only [isBlank, Bool.or_eq_true, Bool.and_eq_true, decide_eq_true_eq, beq_iff_eq] at h
    simp only [List.mem_cons, List.not_mem_nil, or_false]
    omega
  rw [isWordStart, hletter, Bool.false_or]
  refine beq_false_of_ne ?_
  rintro rfl
  cases h

theorem scan_cons_of_isBlank {c : Char} (hc : isBlank c = true) {rest : List Char}
    {ts : List Token} (h : scan rest = some ts) : scan (c :: rest) = some ts := by
  rw [scan, List.length_cons, scanFrom, scanOne_of_isBlank (not_isWordStart_of_isBlank hc) hc]
  exact h

/-- Blanks at the start give no tokens. -/
theorem scan_of_trimStart {cs : List Char} {ts : List Token} (h : scan (trimStart cs) = some ts) :
    scan cs = some ts := by
  induction cs with
  | nil => exact h
  | cons c cs ih =>
    by_cases hc : isBlank c = true
    · rw [Text.trimStart_cons_of_isBlank hc] at h
      exact scan_cons_of_isBlank hc (ih h)
    · rwa [Text.trimStart_of_not_isBlank (Bool.eq_false_iff.2 hc)] at h

/-! ### Lexemes -/

/-- Before a blank the text is one token. -/
def IsLexeme (cs : List Char) (t : Token) : Prop :=
  ∃ c tail, cs = c :: tail ∧
    ∀ rest, scanOne c (tail ++ ' ' :: rest) = some (some t, ' ' :: rest)

theorem IsLexeme.scan {cs rest : List Char} {t : Token} {ts : List Token} (h : IsLexeme cs t)
    (hrest : scan rest = some ts) : scan (cs ++ ' ' :: rest) = some (t :: ts) := by
  obtain ⟨c, tail, rfl, hone⟩ := h
  have hblank : Sql.scan (' ' :: rest) = some ts := scan_cons_of_isBlank (by decide) hrest
  rw [Sql.scan, List.cons_append, List.length_cons, scanFrom, hone]
  exact scanFrom_of_scan hblank (by simp) [t]

/-- What introduces a literal is followed by a quote or by `&`. -/
theorem scanIntroduced_eq_scanWord {c : Char} {rest : List Char}
    (h : ∀ d ∈ rest.head?, d ≠ '\'' ∧ d ≠ '"' ∧ d ≠ '&') :
    scanIntroduced c rest = scanWord [c] rest := by
  unfold scanIntroduced
  split
  all_goals first | rfl | exact absurd h (by simp)

/-- Whether a text is a word without quotes. -/
def isWord : List Char → Bool
  | [] => false
  | c :: cs => isWordStart c && cs.all isWordPart

/-- A word ends at a blank. -/
theorem isLexeme_of_isWord {cs : List Char} (h : isWord cs = true) :
    IsLexeme cs (.word (.unquoted cs)) := by
  rcases cs with - | ⟨c, cs⟩
  · cases h
  obtain ⟨hc, hcs⟩ := Bool.and_eq_true_iff.1 h
  refine ⟨c, cs, rfl, fun rest => ?_⟩
  have hblank : isWordPart ' ' = false := by decide +kernel
  have hpart : ∀ d ∈ cs, isWordPart d = true := List.all_eq_true.1 hcs
  have hhead : ∀ d ∈ (cs ++ ' ' :: rest).head?, d ≠ '\'' ∧ d ≠ '"' ∧ d ≠ '&' := by
    intro d hd
    cases cs with
    | nil =>
      cases hd
      decide
    | cons d' cs =>
      cases hd
      have hd := hpart d List.mem_cons_self
      refine ⟨?_, ?_, ?_⟩ <;> rintro rfl <;> exact absurd hd (by decide +kernel)
  rw [scanOne_of_isWordStart hc, scanIntroduced_eq_scanWord hhead, scanWord,
    List.takeWhile_append_of_pos hpart, List.dropWhile_append_of_pos hpart,
    List.takeWhile_cons_of_neg (Bool.eq_false_iff.1 hblank),
    List.dropWhile_cons_of_neg (Bool.eq_false_iff.1 hblank), List.append_nil]
  rfl

theorem isLexeme_star : IsLexeme ['*'] (.symbol "*") := ⟨'*', [], rfl, fun _ => rfl⟩

theorem isLexeme_equals : IsLexeme ['='] (.symbol "=") := ⟨'=', [], rfl, fun _ => rfl⟩

theorem isLexeme_zero : IsLexeme ['0'] (.number "0" false) := ⟨'0', [], rfl, fun _ => rfl⟩

/-- A text of lexemes with blanks after them. -/
def spacedOut (lexemes : List (List Char × Token)) : List Char :=
  lexemes.flatMap fun (cs, _) => cs ++ [' ']

theorem scan_spacedOut {lexemes : List (List Char × Token)} (h : ∀ l ∈ lexemes, IsLexeme l.1 l.2)
    {rest : List Char} {ts : List Token} (hrest : scan rest = some ts) :
    scan (spacedOut lexemes ++ rest) = some (lexemes.map (·.2) ++ ts) := by
  induction lexemes with
  | nil => exact hrest
  | cons l lexemes ih =>
    obtain ⟨hl, hlexemes⟩ := List.forall_mem_cons.1 h
    have htext : spacedOut (l :: lexemes) ++ rest = l.1 ++ ' ' :: (spacedOut lexemes ++ rest) := by
      simp [spacedOut]
    rw [htext]
    exact hl.scan (ih hlexemes)

end BranchDistance.Sql
