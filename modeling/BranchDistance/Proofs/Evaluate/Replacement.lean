import BranchDistance.Proofs.Evaluate.Leaf
import BranchDistance.Proofs.Evaluate.Meaning

/-!
# Replacing parts of conditions

A condition is evaluated part by part, so a part may be replaced by another that is evaluated in the
same way (`outcome_replaced`), and an operand by another of the same value
(`outcome_operandReplaced`).  Conditions without subqueries are evaluated in the same way as soon as
they mean the same (`outcome_of_meaning`), whatever the deadline is.

Only a negation asks why an outcome is unknown.  A part that is not negated may be replaced by one
of the same distance (`sameDistance_replaced`), and an operand without a value by any other
(`sameDistance_operandReplaced`).
-/

namespace BranchDistance

namespace Condition

/-- The second condition is the first one with a part of it, under any negations, conjunctions and
disjunctions, replaced. -/
inductive Replaced (R : Condition → Condition → Prop) : Condition → Condition → Prop
  | here {c c' : Condition} (h : R c c') : Replaced R c c'
  | not {c c' : Condition} (h : Replaced R c c') : Replaced R (.not c) (.not c')
  | and (before after : List Condition) {c c' : Condition} (h : Replaced R c c') :
    Replaced R (.and (before ++ c :: after)) (.and (before ++ c' :: after))
  | or (before after : List Condition) {c c' : Condition} (h : Replaced R c c') :
    Replaced R (.or (before ++ c :: after)) (.or (before ++ c' :: after))

/-- The second condition is the first one with a part of it, under any conjunctions and disjunctions
but no negation, replaced. -/
inductive ReplacedUnnegated (R : Condition → Condition → Prop) : Condition → Condition → Prop
  | here {c c' : Condition} (h : R c c') : ReplacedUnnegated R c c'
  | and (before after : List Condition) {c c' : Condition} (h : ReplacedUnnegated R c c') :
    ReplacedUnnegated R (.and (before ++ c :: after)) (.and (before ++ c' :: after))
  | or (before after : List Condition) {c c' : Condition} (h : ReplacedUnnegated R c c') :
    ReplacedUnnegated R (.or (before ++ c :: after)) (.or (before ++ c' :: after))

/-- The second condition is the first one, a leaf, with one of its operands replaced. -/
inductive OperandReplaced (R : Operand → Operand → Prop) : Condition → Condition → Prop
  | left (relation : Relation) {l l' : Operand} (r : Operand) (h : R l l') :
    OperandReplaced R (.compare relation l r) (.compare relation l' r)
  | right (relation : Relation) (l : Operand) {r r' : Operand} (h : R r r') :
    OperandReplaced R (.compare relation l r) (.compare relation l r')
  | isNull {o o' : Operand} (negated : Bool) (h : R o o') :
    OperandReplaced R (.isNull o negated) (.isNull o' negated)
  | between {o o' : Operand} (low high : Operand) (h : R o o') :
    OperandReplaced R (.between o low high) (.between o' low high)
  | low (o : Operand) {low low' : Operand} (high : Operand) (h : R low low') :
    OperandReplaced R (.between o low high) (.between o low' high)
  | high (o low : Operand) {high high' : Operand} (h : R high high') :
    OperandReplaced R (.between o low high) (.between o low high')
  | inList {o o' : Operand} (candidates : List Operand) (h : R o o') :
    OperandReplaced R (.inList o candidates) (.inList o' candidates)
  | candidate (o : Operand) (before after : List Operand) {d d' : Operand} (h : R d d') :
    OperandReplaced R (.inList o (before ++ d :: after)) (.inList o (before ++ d' :: after))
  | inQuery {o o' : Operand} (query : String) (h : R o o') :
    OperandReplaced R (.inQuery o query) (.inQuery o' query)
  | like {o o' : Operand} (pattern : Operand) (negated foldCase : Bool) (h : R o o') :
    OperandReplaced R (.like o pattern negated foldCase) (.like o' pattern negated foldCase)
  | pattern (o : Operand) {d d' : Operand} (negated foldCase : Bool) (h : R d d') :
    OperandReplaced R (.like o d negated foldCase) (.like o d' negated foldCase)

end Condition

namespace Setting

variable {setting : Setting} {scope : Scope}

/-! ### Parts -/

theorem conjunction_replaced {c c' : Condition}
    (h : setting.outcome scope c = setting.outcome scope c') (before after : List Condition)
    (total : Outcome) :
    setting.conjunction scope total (before ++ c :: after) =
      setting.conjunction scope total (before ++ c' :: after) := by
  induction before generalizing total with
  | nil =>
    simp only [List.nil_append]
    rw [conjunction, conjunction, h]
  | cons b before ih =>
    simp only [List.cons_append]
    rw [conjunction, conjunction]
    exact congrArg _ (funext fun o => ih _)

theorem disjunction_replaced {c c' : Condition}
    (h : setting.outcome scope c = setting.outcome scope c') (before after : List Condition)
    (best : Option Outcome) :
    setting.disjunction scope best (before ++ c :: after) =
      setting.disjunction scope best (before ++ c' :: after) := by
  induction before generalizing best with
  | nil =>
    simp only [List.nil_append]
    rw [disjunction, disjunction, h]
  | cons b before ih =>
    simp only [List.cons_append]
    rw [disjunction, disjunction]
    refine congrArg _ (funext fun o => ?_)
    split
    · rfl
    · exact ih _

/-- A part may be replaced by one that is evaluated in the same way. -/
theorem outcome_replaced {R : Condition → Condition → Prop}
    (hR : ∀ c c', R c c' → setting.outcome scope c = setting.outcome scope c')
    {c c' : Condition} (h : c.Replaced R c') :
    setting.outcome scope c = setting.outcome scope c' := by
  induction h with
  | here h => exact hR _ _ h
  | not _ ih => rw [outcome, outcome, ih]
  | and before after _ ih => rw [outcome, outcome, conjunction_replaced ih before after]
  | or before after _ ih => rw [outcome, outcome, disjunction_replaced ih before after]

/-! ### Operands -/

/-- An operand may be replaced by one of the same value. -/
theorem outcome_operandReplaced {R : Operand → Operand → Prop}
    (hR : ∀ o o', R o o' → o.value? scope = o'.value? scope)
    {c c' : Condition} (h : c.OperandReplaced R c') :
    setting.outcome scope c = setting.outcome scope c' := by
  cases h with
  | left _ _ h | right _ _ h => simp only [outcome, Leaf.compare, hR _ _ h]
  | isNull _ h => simp only [outcome, Leaf.isNull, hR _ _ h]
  | between _ _ h | low _ _ h | high _ _ h =>
    simp only [outcome, Leaf.between, Leaf.against, hR _ _ h]
  | inList _ h => simp only [outcome, Leaf.inList, hR _ _ h]
  | candidate _ _ _ h =>
    simp only [outcome, Leaf.inList, List.map_append, List.map_cons, Leaf.against, hR _ _ h]
  | inQuery _ h => simp only [outcome, Setting.inQuery, hR _ _ h]
  | like _ _ _ h | pattern _ _ _ h => simp only [outcome, Leaf.like, hR _ _ h]

/-! ### Conditions without subqueries -/

variable {p : Progress}

/-- When the deadline is over, nothing is evaluated. -/
theorem run_outcome_of_expired (hp : setting.deadline.isExpired p.elapsed = true)
    (c : Condition) :
    (setting.outcome scope c).run p = (.error (.deadline p.elapsed), p) := by
  cases c <;> rw [outcome, run_check_bind, if_pos hp]

theorem outcome_of_meaning {c c' : Condition} (hc : c.queries = []) (hc' : c'.queries = [])
    (h : setting.meaning scope c = setting.meaning scope c') :
    setting.outcome scope c = setting.outcome scope c' := by
  apply Run.ext
  intro p
  cases hp : setting.deadline.isExpired p.elapsed with
  | true => rw [run_outcome_of_expired hp, run_outcome_of_expired hp]
  | false => rw [run_outcome_of_queries hp c hc, run_outcome_of_queries hp c' hc', h]

end Setting

/-! ### Parts of the same distance -/

/-- Two runs do the same, and their outcomes have the same distance. -/
def Run.SameDistance (r r' : Run Outcome) : Prop :=
  ∀ p, (r.run p).1.map Outcome.distance = (r'.run p).1.map Outcome.distance ∧
    (r.run p).2 = (r'.run p).2

namespace Run.SameDistance

theorem refl (r : Run Outcome) : SameDistance r r := fun _ => ⟨rfl, rfl⟩

theorem pure {o o' : Outcome} (h : o.distance = o'.distance) :
    SameDistance (Pure.pure o) (Pure.pure o') := by
  intro p
  simp only [run_pure]
  exact ⟨congrArg Except.ok h, trivial⟩

theorem bind_left {α : Type} {next next' : α → Run Outcome} (r : Run α)
    (h : ∀ a, SameDistance (next a) (next' a)) : SameDistance (r >>= next) (r >>= next') := by
  intro p
  rw [run_bind, run_bind]
  rcases r.run p with ⟨f | a, q⟩
  · exact ⟨rfl, rfl⟩
  · exact h a q

theorem bind {r r' : Run Outcome} {next next' : Outcome → Run Outcome} (h : SameDistance r r')
    (hnext : ∀ o o', o.distance = o'.distance → SameDistance (next o) (next' o')) :
    SameDistance (r >>= next) (r' >>= next') := by
  intro p
  obtain ⟨hresult, hstate⟩ := h p
  rw [run_bind, run_bind]
  generalize r.run p = ran at hresult hstate
  generalize r'.run p = ran' at hresult hstate
  obtain ⟨f | o, q⟩ := ran <;> obtain ⟨f' | o', q'⟩ := ran' <;> cases hstate
  · cases hresult
    exact ⟨rfl, rfl⟩
  · cases hresult
  · cases hresult
  · exact hnext o o' (Except.ok.inj hresult) q

end Run.SameDistance

namespace Outcome

theorem isSatisfied_iff_distance {o : Outcome} : o.isSatisfied = true ↔ o.distance = .zero := by
  cases o with
  | known d => exact Distance.isZero_iff
  | unknown cause => cases cause <;> decide

theorem isSatisfied_congr {o o' : Outcome} (h : o.distance = o'.distance) :
    o.isSatisfied = o'.isSatisfied := by
  rw [Bool.eq_iff_iff, isSatisfied_iff_distance, isSatisfied_iff_distance, h]

theorem distance_ofOperand {f g : Value → Outcome} (h : ∀ v, (f v).distance = (g v).distance)
    {l l' : Except Cause Value} (hl : l.toOption = l'.toOption) :
    (ofOperand f l).distance = (ofOperand g l').distance := by
  cases l <;> cases l'
  · rfl
  · cases hl
  · cases hl
  · obtain rfl := Option.some.inj hl
    exact h _

theorem distance_ofOperands (f : Value → Value → Outcome) {l l' r r' : Except Cause Value}
    (hl : l.toOption = l'.toOption) (hr : r.toOption = r'.toOption) :
    (ofOperands f l r).distance = (ofOperands f l' r').distance := by
  cases l with
  | error a => cases l' with
    | ok v' => cases hl
    | error a' => cases r <;> cases r' <;> rfl
  | ok v => cases l' with
    | error a' => cases hl
    | ok v' =>
      obtain rfl := Option.some.inj hl
      have hone (r : Except Cause Value) : ofOperands f (.ok v) r = ofOperand (f v) r := by
        cases r <;> rfl
      rw [hone, hone]
      exact distance_ofOperand (fun _ => rfl) hr

end Outcome

namespace Setting

variable {setting : Setting} {scope : Scope}

theorem distance_of_sameDistance {c c' : Condition}
    (h : Run.SameDistance (setting.outcome scope c) (setting.outcome scope c')) (p : Progress) :
    setting.distance scope c p = setting.distance scope c' p := by
  obtain ⟨hresult, hstate⟩ := h p
  unfold distance
  generalize (setting.outcome scope c).run p = ran at hresult hstate ⊢
  generalize (setting.outcome scope c').run p = ran' at hresult hstate ⊢
  obtain ⟨f | o, q⟩ := ran <;> obtain ⟨f' | o', q'⟩ := ran' <;> cases hstate
  · cases hresult
    rfl
  · cases hresult
  · cases hresult
  · exact congrArg (·, q) (Except.ok.inj hresult)

/-- Conditions without subqueries whose meanings have the same distance. -/
theorem sameDistance_of_meaning {c c' : Condition} (hc : c.queries = []) (hc' : c'.queries = [])
    (h : (setting.meaning scope c).distance = (setting.meaning scope c').distance) :
    Run.SameDistance (setting.outcome scope c) (setting.outcome scope c') := by
  intro p
  cases hp : setting.deadline.isExpired p.elapsed with
  | true =>
    rw [run_outcome_of_expired hp, run_outcome_of_expired hp]
    exact ⟨rfl, rfl⟩
  | false =>
    rw [run_outcome_of_queries hp c hc, run_outcome_of_queries hp c' hc']
    exact ⟨congrArg Except.ok h, rfl⟩

theorem sameDistance_conjunction {cs cs' : List Condition}
    (h : List.Forall₂ (fun c c' =>
      Run.SameDistance (setting.outcome scope c) (setting.outcome scope c')) cs cs')
    {total total' : Outcome} (ht : total.distance = total'.distance) :
    Run.SameDistance (setting.conjunction scope total cs)
      (setting.conjunction scope total' cs') := by
  -- the totals may differ in their causes, so both are generalized
  induction h generalizing total total' with
  | nil =>
    rw [conjunction, conjunction]
    exact .pure ht
  | cons hc _ ih =>
    rw [conjunction, conjunction]
    refine hc.bind fun o o' ho => ih ?_
    rw [Outcome.distance_and, Outcome.distance_and, ht, ho]

theorem sameDistance_disjunction {cs cs' : List Condition}
    (h : List.Forall₂ (fun c c' =>
      Run.SameDistance (setting.outcome scope c) (setting.outcome scope c')) cs cs')
    {best best' : Option Outcome}
    (hb : best.map Outcome.distance = best'.map Outcome.distance) :
    Run.SameDistance (setting.disjunction scope best cs)
      (setting.disjunction scope best' cs') := by
  induction h generalizing best best' with
  | nil =>
    rw [disjunction, disjunction]
    apply Run.SameDistance.pure
    cases best <;> cases best'
    · rfl
    · cases hb
    · cases hb
    · exact Option.some.inj hb
  | cons hc _ ih =>
    rw [disjunction, disjunction]
    refine hc.bind fun o o' ho => ?_
    -- whether the run ends here is a matter of the distance
    rw [Outcome.isSatisfied_congr ho]
    split
    · exact .pure ho
    · apply ih
      cases best <;> cases best'
      · exact congrArg some ho
      · cases hb
      · cases hb
      · have hb := Option.some.inj hb
        simp only [Option.map_some, Outcome.distance_or]
        rw [hb, ho]

/-- A part that is not negated may be replaced by one of the same distance. -/
theorem sameDistance_replaced {R : Condition → Condition → Prop}
    (hR : ∀ c c', R c c' →
      Run.SameDistance (setting.outcome scope c) (setting.outcome scope c'))
    {c c' : Condition} (h : c.ReplacedUnnegated R c') :
    Run.SameDistance (setting.outcome scope c) (setting.outcome scope c') := by
  have hrefl (cs : List Condition) : List.Forall₂ (fun c c' =>
      Run.SameDistance (setting.outcome scope c) (setting.outcome scope c')) cs cs :=
    List.forall₂_same.2 fun c _ => .refl _
  induction h with
  | here h => exact hR _ _ h
  | and before after _ ih =>
    rw [outcome, outcome]
    exact .bind_left _ fun _ =>
      sameDistance_conjunction (List.rel_append (hrefl before) (.cons ih (hrefl after))) rfl
  | or before after _ ih =>
    rw [outcome, outcome]
    exact .bind_left _ fun _ =>
      sameDistance_disjunction (List.rel_append (hrefl before) (.cons ih (hrefl after))) rfl

/-- An operand without a value may be replaced by any other one. -/
theorem sameDistance_operandReplaced {R : Operand → Operand → Prop}
    (hR : ∀ o o', R o o' → (o.value? scope).toOption = (o'.value? scope).toOption)
    {c c' : Condition} (h : c.OperandReplaced R c') :
    Run.SameDistance (setting.outcome scope c) (setting.outcome scope c') := by
  have hagainst (relation : Relation) (v : Value) {o o' : Operand} (h : R o o') :
      (Leaf.against setting.config scope relation v o).distance =
        (Leaf.against setting.config scope relation v o').distance :=
    Outcome.distance_ofOperand (fun _ => rfl) (hR _ _ h)
  cases h with
  | left _ _ h =>
    simp only [outcome]
    exact .bind_left _ fun _ => .pure (Outcome.distance_ofOperands _ (hR _ _ h) rfl)
  | right _ _ h =>
    simp only [outcome]
    exact .bind_left _ fun _ => .pure (Outcome.distance_ofOperands _ rfl (hR _ _ h))
  | isNull _ h =>
    simp only [outcome]
    exact .bind_left _ fun _ => .pure (Outcome.distance_ofOperand (fun _ => rfl) (hR _ _ h))
  | between _ _ h =>
    simp only [outcome]
    exact .bind_left _ fun _ => .pure (Outcome.distance_ofOperand (fun _ => rfl) (hR _ _ h))
  | low _ _ h =>
    simp only [outcome]
    refine .bind_left _ fun _ => .pure (Outcome.distance_ofOperand (fun v => ?_) rfl)
    rw [Outcome.distance_and, Outcome.distance_and, hagainst _ v h]
  | high _ _ h =>
    simp only [outcome]
    refine .bind_left _ fun _ => .pure (Outcome.distance_ofOperand (fun v => ?_) rfl)
    rw [Outcome.distance_and, Outcome.distance_and, hagainst _ v h]
  | inList _ h =>
    simp only [outcome]
    exact .bind_left _ fun _ => .pure (Outcome.distance_ofOperand (fun _ => rfl) (hR _ _ h))
  | candidate _ _ _ h =>
    simp only [outcome]
    refine .bind_left _ fun _ => .pure (Outcome.distance_ofOperand (fun v => ?_) rfl)
    simp only [Outcome.distance_any, List.map_append, List.map_cons, hagainst _ v h]
  | inQuery query h =>
    rename_i o o'
    simp only [outcome]
    refine .bind_left _ fun _ => ?_
    have hvalue := hR _ _ h
    unfold inQuery
    cases hv : o.value? scope <;> cases hv' : o'.value? scope <;> rw [hv, hv'] at hvalue
    · exact .pure rfl
    · cases hvalue
    · cases hvalue
    · obtain rfl := Option.some.inj hvalue
      exact .refl _
  | like _ _ _ h =>
    simp only [outcome]
    exact .bind_left _ fun _ => .pure (Outcome.distance_ofOperands _ (hR _ _ h) rfl)
  | pattern _ _ _ h =>
    simp only [outcome]
    exact .bind_left _ fun _ => .pure (Outcome.distance_ofOperands _ rfl (hR _ _ h))

end Setting

end BranchDistance
