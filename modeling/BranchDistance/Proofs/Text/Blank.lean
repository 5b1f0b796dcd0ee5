import BranchDistance.Text.Blank
import Mathlib

/-!
# Blanks at the ends of a text

Blanks that are put around a text are removed again with those that it has itself (`trim_blanks`).
It does not matter at which end they are removed first (`trimStart_trimEnd`).
-/

namespace BranchDistance.Text

/-- A digit is no blank. -/
theorem not_isBlank_of_isDigit {c : Char} (h : c.isDigit = true) : isBlank c = false := by
  simp only [Char.isDigit, Bool.and_eq_true, decide_eq_true_eq, ge_iff_le,
    UInt32.le_iff_toNat_le] at h
  have hlow : 48 ≤ c.toNat := h.1
  have hhigh : c.toNat ≤ 57 := h.2
  simp [isBlank]
  omega

/-! ### The end -/

theorem trimEnd_append_blanks {after : List Char} (h : ∀ c ∈ after, isBlank c = true)
    (cs : List Char) : trimEnd (cs ++ after) = trimEnd cs := by
  have hreverse : ∀ c ∈ after.reverse, isBlank c = true := by simpa using h
  rw [trimEnd, List.reverse_append, List.dropWhile_append_of_pos hreverse, trimEnd]

theorem trimEnd_of_not_isBlank {cs : List Char} (h : ∀ c ∈ cs, isBlank c = false) :
    trimEnd cs = cs := by
  have hlast : cs.reverse.dropWhile isBlank = cs.reverse := by
    rw [List.dropWhile_eq_self_iff]
    intro hlength
    simpa using h _ (List.mem_reverse.1 (List.getElem_mem hlength))
  rw [trimEnd, hlast, List.reverse_reverse]

theorem trimEnd_append {cs : List Char} (h : trimEnd cs ≠ []) (before : List Char) :
    trimEnd (before ++ cs) = before ++ trimEnd cs := by
  have hne : (cs.reverse.dropWhile isBlank).isEmpty = false := by
    simpa [trimEnd, List.isEmpty_eq_false_iff] using h
  rw [trimEnd, List.reverse_append, List.dropWhile_append, if_neg (Bool.eq_false_iff.1 hne),
    List.reverse_append, List.reverse_reverse, trimEnd]

theorem trimEnd_cons_of_not_isBlank {c : Char} (hc : isBlank c = false) (cs : List Char) :
    ∃ tail, trimEnd (c :: cs) = c :: tail := by
  by_cases hcs : trimEnd cs = []
  · refine ⟨[], ?_⟩
    have hdrop : cs.reverse.dropWhile isBlank = [] := by simpa [trimEnd] using hcs
    rw [trimEnd, List.reverse_cons, List.dropWhile_append, hdrop]
    simp [hc]
  · exact ⟨trimEnd cs, trimEnd_append hcs [c]⟩

/-! ### Both ends -/

theorem trim_of_not_isBlank {cs : List Char} (h : ∀ c ∈ cs, isBlank c = false) : trim cs = cs := by
  have hstart : trimStart cs = cs := by
    rcases cs with _ | ⟨c, cs⟩
    · rfl
    · exact trimStart_of_not_isBlank (h c List.mem_cons_self) cs
  rw [trim, hstart, trimEnd_of_not_isBlank h]

/-- Blanks around a text are removed together with its own. -/
theorem trim_blanks {before after : List Char} (hbefore : ∀ c ∈ before, isBlank c = true)
    (hafter : ∀ c ∈ after, isBlank c = true) (cs : List Char) :
    trim (before ++ cs ++ after) = trim cs := by
  have hafter' : after.dropWhile isBlank = [] := List.dropWhile_eq_nil_iff.2 hafter
  rw [trim, trim, trimStart, List.append_assoc, List.dropWhile_append_of_pos hbefore,
    List.dropWhile_append]
  split
  · next h => rw [hafter', trimStart, List.isEmpty_iff.1 h]
  · exact trimEnd_append_blanks hafter _

/-- Blanks inside a text stay. -/
theorem trim_append_of_not_isBlank {c : Char} {after : List Char} (hc : isBlank c = false)
    (hafter : ∀ c ∈ after, isBlank c = false) (hne : after ≠ []) (before : List Char) :
    trim (c :: (before ++ after)) = c :: (before ++ after) := by
  have hend : trimEnd after = after := trimEnd_of_not_isBlank hafter
  rw [trim, trimStart_of_not_isBlank hc, ← List.cons_append, trimEnd_append (by rwa [hend]), hend]

/-- A text that consists of another one and of blanks around it. -/
def IsFramed (cs text : List Char) : Prop :=
  ∃ before after, (∀ c ∈ before, isBlank c = true) ∧ (∀ c ∈ after, isBlank c = true) ∧
    text = before ++ cs ++ after

theorem IsFramed.trim_eq {cs text : List Char} (h : IsFramed cs text) : trim text = trim cs := by
  obtain ⟨before, after, hbefore, hafter, rfl⟩ := h
  exact trim_blanks hbefore hafter cs

theorem trimEnd_ne_nil {cs : List Char} (h : trim cs ≠ []) : trimEnd cs ≠ [] := by
  induction cs with
  | nil => exact h
  | cons c cs ih =>
    by_cases hc : isBlank c = true
    · rw [trim, trimStart_cons_of_isBlank hc] at h
      have hcs := ih h
      rw [show c :: cs = [c] ++ cs from rfl, trimEnd_append hcs]
      simp
    · obtain ⟨tail, htail⟩ := trimEnd_cons_of_not_isBlank (Bool.eq_false_iff.2 hc) cs
      rw [htail]
      simp

/-- It does not matter at which end the blanks are removed first. -/
theorem trimStart_trimEnd {cs : List Char} (h : trim cs ≠ []) :
    trimStart (trimEnd cs) = trim cs := by
  induction cs with
  | nil => rfl
  | cons c cs ih =>
    by_cases hc : isBlank c = true
    · rw [trim, trimStart_cons_of_isBlank hc] at h ⊢
      rw [show c :: cs = [c] ++ cs from rfl, trimEnd_append (trimEnd_ne_nil h),
        List.singleton_append, trimStart_cons_of_isBlank hc]
      exact ih h
    · rw [Bool.not_eq_true] at hc
      obtain ⟨tail, htail⟩ := trimEnd_cons_of_not_isBlank hc cs
      rw [trim, trimStart_of_not_isBlank hc, htail, trimStart_of_not_isBlank hc]

theorem toList_trimmed (s : String) : (trimmed s).toList = trim s.toList := String.toList_ofList

end BranchDistance.Text
