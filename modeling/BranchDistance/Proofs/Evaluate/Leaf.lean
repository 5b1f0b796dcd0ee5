import BranchDistance.Evaluate.Leaf
import BranchDistance.Proofs.Evaluate.Relation

/-!
# The laws of leaves

A disjunction stops at its first satisfied part.  This does not show in what is made of outcomes by
a map into a bounded chain that sends disjunctions to minima and what is satisfied to the bottom:
the image of the disjunction is the minimum over all parts (`map_any`).  Both the grade and the
distance are such maps.

The known distances of all leaves are finite.
-/

namespace BranchDistance

namespace Outcome

/-! ### Disjunctions of lists -/

section Disjunction

variable {M : Type} [LinearOrder M]

theorem isLeast_foldl_min (l : List M) (m : M) :
    IsLeast {x | x = m ∨ x ∈ l} (l.foldl (· ⊓ ·) m) := by
  induction l generalizing m with
  | nil => simp
  | cons x l ih =>
    obtain ⟨hmem, hle⟩ := ih (m ⊓ x)
    rw [List.foldl_cons]
    refine ⟨?_, ?_⟩
    · rcases hmem with h | h
      · rcases min_choice m x with hm | hm
        · exact .inl (h.trans hm)
        · exact .inr (List.mem_cons.2 (.inl (h.trans hm)))
      · exact .inr (List.mem_cons_of_mem x h)
    · have hmin : l.foldl (· ⊓ ·) (m ⊓ x) ≤ m ⊓ x := hle (.inl rfl)
      rintro y (rfl | hy)
      · exact hmin.trans inf_le_left
      · rcases List.mem_cons.1 hy with rfl | hy
        · exact hmin.trans inf_le_right
        · exact hle (.inr hy)

variable [BoundedOrder M] {f : Outcome → M}

theorem foldl_min_bot (l : List M) : l.foldl (· ⊓ ·) ⊥ = ⊥ := by
  induction l with
  | nil => rfl
  | cons m l ih => rw [List.foldl_cons, bot_inf_eq, ih]

theorem map_orAll (hor : ∀ a b, f (a.or b) = f a ⊓ f b) (hsat : f satisfied = ⊥) (best : Outcome)
    (os : List Outcome) : f (best.orAll os) = (os.map f).foldl (· ⊓ ·) (f best) := by
  induction os generalizing best with
  | nil => rfl
  | cons o os ih =>
    rw [orAll, List.map_cons, List.foldl_cons]
    by_cases ho : o.isSatisfied = true
    · rw [if_pos ho, eq_satisfied_of_isSatisfied ho, hsat, inf_bot_eq, foldl_min_bot]
    · rw [if_neg ho, ih, hor]

/-- The early end of a disjunction does not show in minima. -/
theorem map_any (hor : ∀ a b, f (a.or b) = f a ⊓ f b) (hsat : f satisfied = ⊥)
    (hinv : f invalid = ⊤) (os : List Outcome) : f (any os) = (os.map f).foldl (· ⊓ ·) ⊤ := by
  cases os with
  | nil => exact hinv
  | cons o os =>
    rw [any, List.map_cons, List.foldl_cons, top_inf_eq]
    by_cases ho : o.isSatisfied = true
    · rw [if_pos ho, eq_satisfied_of_isSatisfied ho, hsat, foldl_min_bot]
    · rw [if_neg ho, map_orAll hor hsat]

end Disjunction

theorem grade_any (os : List Outcome) : (any os).grade = (os.map grade).foldl (· ⊓ ·) ⊤ :=
  map_any grade_or rfl rfl os

theorem distance_any (os : List Outcome) :
    (any os).distance = (os.map distance).foldl (· ⊓ ·) .infinite :=
  map_any distance_or rfl rfl os

/-! ### Conjunctions of lists -/

theorem grade_foldl_and (os : List Outcome) (total : Outcome) :
    (os.foldl Outcome.and total).grade = (os.map grade).foldl (· ⊔ ·) total.grade := by
  induction os generalizing total with
  | nil => rfl
  | cons o os ih => rw [List.foldl_cons, ih, grade_and, List.map_cons, List.foldl_cons]

theorem distance_foldl_and (os : List Outcome) (total : Outcome) :
    (os.foldl Outcome.and total).distance = (os.map distance).foldl (· + ·) total.distance := by
  induction os generalizing total with
  | nil => rfl
  | cons o os ih => rw [List.foldl_cons, ih, distance_and, List.map_cons, List.foldl_cons]

/-! ### Finite distances -/

theorem IsSound.foldl_and {os : List Outcome} (h : ∀ o ∈ os, o.IsSound) {total : Outcome}
    (ht : total.IsSound) : (os.foldl Outcome.and total).IsSound := by
  induction os generalizing total with
  | nil => exact ht
  | cons o os ih =>
    exact ih (fun o' ho' => h o' (List.mem_cons_of_mem o ho')) (ht.and (h o List.mem_cons_self))

theorem IsSound.orAll {os : List Outcome} (h : ∀ o ∈ os, o.IsSound) {best : Outcome}
    (hb : best.IsSound) : (best.orAll os).IsSound := by
  induction os generalizing best with
  | nil => exact hb
  | cons o os ih =>
    have ho := h o List.mem_cons_self
    rw [Outcome.orAll]
    split
    · exact ho
    · exact ih (fun o' ho' => h o' (List.mem_cons_of_mem o ho')) (hb.or ho)

theorem IsSound.any {os : List Outcome} (h : ∀ o ∈ os, o.IsSound) : (any os).IsSound := by
  cases os with
  | nil => trivial
  | cons o os =>
    have ho := h o List.mem_cons_self
    rw [Outcome.any]
    split
    · exact ho
    · exact IsSound.orAll (fun o' ho' => h o' (List.mem_cons_of_mem o ho')) ho

theorem IsSound.negate {penalty : Float} (h : Config.isUsable penalty = true) (o : Outcome) :
    (o.negate penalty).IsSound := by
  cases o with
  | known d =>
    rw [Outcome.negate]
    split
    · exact (ofBool_of_isUsable h false).1
    · exact isSound_satisfied
  | unknown cause =>
    cases cause
    · exact isSound_satisfied
    · trivial

theorem IsSound.ofOperands {f : Value → Value → Outcome} (h : ∀ a b, (f a b).IsSound)
    (l r : Except Cause Value) : (ofOperands f l r).IsSound := by
  cases l <;> cases r <;> first | trivial | exact h _ _

theorem IsSound.ofOperand {f : Value → Outcome} (h : ∀ a, (f a).IsSound)
    (v : Except Cause Value) : (ofOperand f v).IsSound := by
  cases v
  · trivial
  · exact h _

end Outcome

namespace Leaf

variable {config : Config} (hv : config.IsValid) (scope : Scope)

include hv

theorem isSound_compare (relation : Relation) (left right : Operand) :
    (compare config scope relation left right).IsSound :=
  .ofOperands (relation.isSound_outcome hv) _ _

theorem isSound_isNull (operand : Operand) (negated : Bool) :
    (isNull config scope operand negated).IsSound :=
  .ofOperand (fun _ => (Outcome.ofBool_of_isUsable hv.1 _).1) _

theorem isSound_against (relation : Relation) (value : Value) (other : Operand) :
    (against config scope relation value other).IsSound :=
  .ofOperand (relation.isSound_outcome hv value) _

theorem isSound_between (operand low high : Operand) :
    (between config scope operand low high).IsSound :=
  .ofOperand (fun v => (isSound_against hv scope .ge v low).and
    (isSound_against hv scope .le v high)) _

theorem isSound_inList (operand : Operand) (candidates : List Operand) :
    (inList config scope operand candidates).IsSound := by
  refine .ofOperand (fun v => .any ?_) _
  intro o ho
  obtain ⟨candidate, -, rfl⟩ := List.mem_map.1 ho
  exact isSound_against hv scope .eq v candidate

theorem isSound_like (operand pattern : Operand) (negated foldCase : Bool) :
    (like config scope operand pattern negated foldCase).IsSound := by
  refine .ofOperands (fun a b => ?_) _ _
  unfold matching
  split
  · cases negated
    · exact (Outcome.ofFloat_of_sign? (Binary64.sign?_ofInt _)).1
    · exact (Outcome.ofBool_of_isUsable hv.1 _).1
  · trivial

omit hv in
theorem isSound_inRows (hv : config.IsValid) (value : Value) (rows : List Row) :
    (inRows config value rows).IsSound :=
  (Outcome.ofBool_of_isUsable hv.1 _).1

end Leaf

end BranchDistance
