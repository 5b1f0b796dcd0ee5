import BranchDistance.Proofs.Evaluate.Operand
import BranchDistance.Proofs.Evaluate.Replacement

/-!
# Faults in comparisons, ranges and patterns

An invalid part of an operand is only seen if no absent column is evaluated before it in the same
operand, and a range whose operand has no value does not look at its bounds at all.

* An invalid part that is seen makes a comparison, a range or a pattern invalid (`meaning_of_seen`).
* One that is not seen leaves it missing, and its negation is satisfied (`meaning_of_unseen`).
-/

namespace BranchDistance

variable {scope : Scope}

/-! ### Parts of comparisons, ranges and patterns -/

namespace Condition

/-- The operands of a comparison, a range or a pattern. -/
def sides : Condition → List Operand
  | compare _ left right => [left, right]
  | between operand low high => [operand, low, high]
  | like operand pattern _ _ => [operand, pattern]
  | _ => []

variable (scope)

/-- Those of them that are evaluated; the bounds of a range only are if there is a value that may
lie between them. -/
def evaluated : Condition → List Operand
  | between operand low high =>
    match operand.value? scope with
    | .ok _ => [operand, low, high]
    | .error _ => [operand]
  | c => c.sides

/-- A part of an operand fails on its own, for more than a column that is absent. -/
def HasInvalidPart (c : Condition) : Prop := ∃ side ∈ c.sides, side.HasInvalidPart scope

instance (c : Condition) : Decidable (c.HasInvalidPart scope) :=
  inferInstanceAs (Decidable (∃ side ∈ c.sides, side.HasInvalidPart scope))

/-- An operand is evaluated in which an invalid part comes before all columns that are absent. -/
def InvalidFirst (c : Condition) : Prop := ∃ side ∈ c.evaluated scope, side.InvalidFirst scope

instance (c : Condition) : Decidable (c.InvalidFirst scope) :=
  inferInstanceAs (Decidable (∃ side ∈ c.evaluated scope, side.InvalidFirst scope))

/-- The value in a range cannot be compared with that of a bound. -/
def Clashes (config : Config) : Condition → Prop
  | between operand low high =>
    ∃ v, operand.value? scope = .ok v ∧
      ((∃ w, low.value? scope = .ok w ∧ Relation.ge.outcome config v w = .invalid) ∨
        ∃ w, high.value? scope = .ok w ∧ Relation.le.outcome config v w = .invalid)
  | _ => False

end Condition

/-! ### What an operand adds to an outcome -/

namespace Outcome

theorem and_of_invalid {a b : Outcome} (h : a = invalid ∨ b = invalid) : a.and b = invalid := by
  rcases h with rfl | rfl
  · cases b <;> rfl
  · cases a with
    | known d => rfl
    | unknown cause => cases cause <;> rfl

theorem and_of_missing {a b : Outcome} (ha : a ≠ invalid) (hb : b ≠ invalid)
    (h : a = missing ∨ b = missing) : a.and b = missing := by
  rcases h with rfl | rfl
  · cases b with
    | known d => rfl
    | unknown cause => cases cause with
      | missing => rfl
      | invalid => exact absurd rfl hb
  · cases a with
    | known d => rfl
    | unknown cause => cases cause with
      | missing => rfl
      | invalid => exact absurd rfl ha

/-- Without one of the values a predicate on two operands is a conjunction over the operands. -/
theorem ofOperands_eq_and (f : Value → Value → Outcome) {l r : Except Cause Value}
    (h : ¬ ((∃ v, l = .ok v) ∧ ∃ w, r = .ok w)) :
    ofOperands f l r =
      (ofOperand (fun _ => satisfied) l).and (ofOperand (fun _ => satisfied) r) := by
  cases l with
  | error a => cases r <;> rfl
  | ok v => cases r with
    | error b => rfl
    | ok w => exact absurd ⟨⟨v, rfl⟩, ⟨w, rfl⟩⟩ h

end Outcome

namespace Operand

variable {f g : Value → Outcome} {o l r : Operand}

theorem ofOperand_eq_invalid_iff :
    Outcome.ofOperand f (o.value? scope) = .invalid ↔
      o.InvalidFirst scope ∨ ∃ w, o.value? scope = .ok w ∧ f w = .invalid := by
  rw [← value?_eq_invalid_iff]
  cases o.value? scope with
  | ok w => simp [Outcome.ofOperand]
  | error cause => cases cause <;> simp [Outcome.ofOperand, Outcome.invalid]

theorem ofOperand_of_invalidPart (h : o.HasInvalidPart scope)
    (hne : Outcome.ofOperand f (o.value? scope) ≠ .invalid) :
    Outcome.ofOperand f (o.value? scope) = .missing := by
  cases hv : o.value? scope with
  | ok v => exact absurd ⟨v, hv⟩ (not_hasValue_of_invalidPart h)
  | error cause =>
    cases cause with
    | missing => rfl
    | invalid => exact absurd (ofOperand_eq_invalid_iff.2 (.inl (value?_eq_invalid_iff.1 hv))) hne

/-- An invalid part that does not make either side invalid leaves the whole missing. -/
theorem and_of_invalidPart (h : ∃ side ∈ [l, r], side.HasInvalidPart scope)
    (hl : Outcome.ofOperand f (l.value? scope) ≠ .invalid)
    (hr : Outcome.ofOperand g (r.value? scope) ≠ .invalid) :
    (Outcome.ofOperand f (l.value? scope)).and (Outcome.ofOperand g (r.value? scope)) =
      .missing := by
  apply Outcome.and_of_missing hl hr
  obtain ⟨side, hside, hpart⟩ := h
  obtain rfl | rfl := List.mem_pair.1 hside
  · exact .inl (ofOperand_of_invalidPart hpart hl)
  · exact .inr (ofOperand_of_invalidPart hpart hr)

end Operand

/-! ### Predicates on two operands -/

section Pair

variable (f : Value → Value → Outcome) {l r : Operand}

theorem ofOperands_of_seen (h : ∃ side ∈ [l, r], side.InvalidFirst scope) :
    Outcome.ofOperands f (l.value? scope) (r.value? scope) = .invalid := by
  obtain ⟨side, hside, hfirst⟩ := h
  have hnone := Operand.not_hasValue_of_error (Operand.value?_eq_invalid_iff.2 hfirst)
  obtain rfl | rfl := List.mem_pair.1 hside
  · rw [Outcome.ofOperands_eq_and f fun h => hnone h.1]
    exact Outcome.and_of_invalid (.inl (Operand.ofOperand_eq_invalid_iff.2 (.inl hfirst)))
  · rw [Outcome.ofOperands_eq_and f fun h => hnone h.2]
    exact Outcome.and_of_invalid (.inr (Operand.ofOperand_eq_invalid_iff.2 (.inl hfirst)))

theorem ofOperands_of_unseen (h : ∃ side ∈ [l, r], side.HasInvalidPart scope)
    (hnot : ¬ ∃ side ∈ [l, r], side.InvalidFirst scope) :
    Outcome.ofOperands f (l.value? scope) (r.value? scope) = .missing := by
  have hne : ∀ side ∈ [l, r],
      Outcome.ofOperand (fun _ => .satisfied) (side.value? scope) ≠ .invalid := by
    intro side hside hinvalid
    obtain hfirst | ⟨w, -, hw⟩ := Operand.ofOperand_eq_invalid_iff.1 hinvalid
    · exact hnot ⟨side, hside, hfirst⟩
    · cases hw
  -- what is satisfied adds nothing, so the operand that has a value does not matter
  rw [Outcome.ofOperands_eq_and]
  · exact Operand.and_of_invalidPart h (hne l (by simp)) (hne r (by simp))
  · obtain ⟨side, hside, hpart⟩ := h
    have hnone := Operand.not_hasValue_of_invalidPart hpart
    obtain rfl | rfl := List.mem_pair.1 hside
    · exact fun h => hnone h.1
    · exact fun h => hnone h.2

end Pair

/-! ### Ranges -/

section Range

variable {config : Config} {operand low high : Operand}

/-- The range itself or one of its bounds is invalid. -/
theorem Condition.between_sees_iff :
    (between operand low high).InvalidFirst scope ∨
        (between operand low high).Clashes scope config ↔
      operand.InvalidFirst scope ∨ ∃ v, operand.value? scope = .ok v ∧
        (Leaf.against config scope .ge v low = .invalid ∨
          Leaf.against config scope .le v high = .invalid) := by
  simp only [InvalidFirst, evaluated, Clashes, Leaf.against, Operand.ofOperand_eq_invalid_iff]
  cases hv : operand.value? scope with
  | error cause => simp
  | ok v =>
    simp only [List.mem_cons, List.not_mem_nil, or_false, exists_eq_or_imp, exists_eq_left,
      Except.ok.injEq, exists_eq_left', or_assoc, or_left_comm]

theorem between_of_seen (h : (Condition.between operand low high).InvalidFirst scope ∨
      (Condition.between operand low high).Clashes scope config) :
    Leaf.between config scope operand low high = .invalid := by
  unfold Leaf.between
  obtain hfirst | ⟨v, hv, hbound⟩ := Condition.between_sees_iff.1 h
  · exact Operand.ofOperand_eq_invalid_iff.2 (.inl hfirst)
  · rw [hv]
    exact Outcome.and_of_invalid hbound

theorem between_of_unseen (h : (Condition.between operand low high).HasInvalidPart scope)
    (hnot : ¬ ((Condition.between operand low high).InvalidFirst scope ∨
      (Condition.between operand low high).Clashes scope config)) :
    Leaf.between config scope operand low high = .missing := by
  obtain ⟨hfirst, hbounds⟩ := not_or.1 (mt Condition.between_sees_iff.2 hnot)
  unfold Leaf.between
  cases hv : operand.value? scope with
  | error cause =>
    cases cause with
    | missing => rfl
    | invalid => exact absurd (Operand.value?_eq_invalid_iff.1 hv) hfirst
  | ok v =>
    obtain ⟨hlow, hhigh⟩ := not_or.1 fun hbound => hbounds ⟨v, hv, hbound⟩
    obtain ⟨side, hside, hpart⟩ := h
    have hside : side ∈ [low, high] := by
      -- the operand has a value, so the invalid part is one of a bound
      refine (List.mem_cons.1 hside).resolve_left ?_
      rintro rfl
      exact Operand.not_hasValue_of_invalidPart hpart ⟨v, hv⟩
    exact Operand.and_of_invalidPart ⟨side, hside, hpart⟩ hlow hhigh

end Range

namespace Setting

variable {setting : Setting} {c : Condition}

theorem meaning_of_seen (h : c.InvalidFirst scope ∨ c.Clashes scope setting.config) :
    setting.meaning scope c = .invalid := by
  cases c with
  | compare relation left right =>
    rw [meaning]
    exact ofOperands_of_seen _ (h.resolve_right id)
  | like operand pattern negated foldCase =>
    rw [meaning]
    exact ofOperands_of_seen _ (h.resolve_right id)
  | between operand low high =>
    rw [meaning]
    exact between_of_seen h
  | _ =>
    obtain ⟨side, hside, -⟩ := h.resolve_right id
    cases hside

theorem meaning_of_unseen (h : c.HasInvalidPart scope)
    (hnot : ¬ (c.InvalidFirst scope ∨ c.Clashes scope setting.config)) :
    setting.meaning scope c = .missing := by
  cases c with
  | compare relation left right =>
    rw [meaning]
    exact ofOperands_of_unseen _ h (not_or.1 hnot).1
  | like operand pattern negated foldCase =>
    rw [meaning]
    exact ofOperands_of_unseen _ h (not_or.1 hnot).1
  | between operand low high =>
    rw [meaning]
    exact between_of_unseen h hnot
  | _ =>
    obtain ⟨side, hside, -⟩ := h
    cases hside

end Setting

namespace Condition

variable {c : Condition}

theorem mem_columns_of_mem_sides {side : Operand} (hside : side ∈ c.sides) {column : Column}
    (h : column ∈ side.columns) : column ∈ c.columns := by
  cases c with
  | compare relation left right =>
    obtain rfl | rfl := List.mem_pair.1 hside <;> simp [columns, h]
  | like operand pattern negated foldCase =>
    obtain rfl | rfl := List.mem_pair.1 hside <;> simp [columns, h]
  | between operand low high =>
    rw [sides, List.mem_cons, List.mem_pair] at hside
    obtain rfl | rfl | rfl := hside <;> simp [columns, h]
  | _ => cases hside

/-- An operand is evaluated unless one without a value comes before it. -/
theorem evaluated_or_stops {side : Operand} (hside : side ∈ c.sides) :
    side ∈ c.evaluated scope ∨ ∃ o ∈ c.sides, o ∈ c.evaluated scope ∧ ¬ o.HasValue scope := by
  cases c with
  | between operand low high =>
    cases hv : operand.value? scope with
    | ok v =>
      left
      simpa only [evaluated, hv, sides] using hside
    | error cause =>
      right
      exact ⟨operand, List.mem_cons_self, by simp [evaluated, hv],
        Operand.not_hasValue_of_error hv⟩
  | _ => exact .inl hside

/-- If no column is absent, an invalid part is seen. -/
theorem invalidFirst_of_columns (h : c.HasInvalidPart scope)
    (hcolumns : ∀ column ∈ c.columns, scope.includes column = true) : c.InvalidFirst scope := by
  have hfirst {o : Operand} (ho : o ∈ c.sides) (hv : ¬ o.HasValue scope) : o.InvalidFirst scope :=
    Operand.invalidFirst_of_columns
      (fun column hcolumn => hcolumns column (mem_columns_of_mem_sides ho hcolumn)) hv
  obtain ⟨side, hside, hpart⟩ := h
  have hstops : side ∈ c.evaluated scope ∨ _ := evaluated_or_stops hside
  obtain hevaluated | ⟨o, ho, hevaluated, hv⟩ := hstops
  · exact ⟨side, hevaluated, hfirst hside (Operand.not_hasValue_of_invalidPart hpart)⟩
  · exact ⟨o, hevaluated, hfirst ho hv⟩

theorem queries_of_invalidPart (h : c.HasInvalidPart scope) : c.queries = [] := by
  obtain ⟨side, hside, -⟩ := h
  cases c <;> first | rfl | cases hside

end Condition

namespace Setting

/-- An invalid part makes a comparison, a range or a pattern invalid if it is evaluated before any
absent column, as it is on a row with all columns; otherwise it leaves it missing, unless the value
in a range clashes with a bound.  The operands of a sum or a product may be exchanged anywhere
outside of negations, and within them if they do not fail for different causes. -/
theorem invalid_part (setting : Setting) (scope : Scope) :
    (∀ c : Condition, c.HasInvalidPart scope →
      ∀ p, setting.deadline.isExpired p.elapsed = false →
        (c.InvalidFirst scope ∨ c.Clashes scope setting.config →
          (setting.outcome scope c).run p = (.ok .invalid, p) ∧
          setting.distance scope c p = (.infinite, p) ∧
          setting.distance scope (.not c) p = (.infinite, p)) ∧
        (¬ (c.InvalidFirst scope ∨ c.Clashes scope setting.config) →
          (setting.outcome scope c).run p = (.ok .missing, p) ∧
          setting.distance scope c p = (.infinite, p) ∧
          setting.distance scope (.not c) p = (.zero, p))) ∧
    (∀ c : Condition, c.HasInvalidPart scope →
      (∀ column ∈ c.columns, scope.includes column = true) → c.InvalidFirst scope) ∧
    (∀ c c' : Condition,
      c.Replaced (Condition.OperandReplaced (Operand.Exchanged (Operand.Agree scope))) c' →
      setting.outcome scope c = setting.outcome scope c') ∧
    ∀ c c' : Condition,
      c.ReplacedUnnegated (Condition.OperandReplaced (Operand.Exchanged fun _ _ => True)) c' →
      ∀ p, setting.distance scope c p = setting.distance scope c' p := by
  refine ⟨?_, ?_, ?_, ?_⟩
  · intro c hpart p hp
    have hrun (d : Condition) (hd : d.queries = []) :
        (setting.outcome scope d).run p = (.ok (setting.meaning scope d), p) :=
      run_outcome_of_queries hp d hd
    have hqueries : c.queries = [] := Condition.queries_of_invalidPart hpart
    have hnot : (Condition.not c).queries = [] := hqueries
    unfold distance
    rw [hrun _ hqueries, hrun _ hnot, meaning]
    constructor
    · intro hseen
      rw [meaning_of_seen hseen]
      exact ⟨rfl, rfl, rfl⟩
    · intro hunseen
      rw [meaning_of_unseen hpart hunseen]
      exact ⟨rfl, rfl, rfl⟩
  · intro c
    exact Condition.invalidFirst_of_columns
  · intro c c' h
    apply outcome_replaced _ h
    intro d d' hd
    apply outcome_operandReplaced _ hd
    intro o o'
    exact Operand.value?_exchanged
  · intro c c' h p
    refine distance_of_sameDistance (sameDistance_replaced ?_ h) p
    intro d d' hd
    apply sameDistance_operandReplaced _ hd
    intro o o'
    exact Operand.toOption_value?_exchanged

/-- A division by zero beside a column of the row, and after one that is absent. -/
theorem invalid_part_of_row :
    let setting : Setting := { config := {} }
    let scope : Scope := ⟨⟨[⟨none, "x", .int 2⟩]⟩, .empty⟩
    let one : Operand := .literal (.int 1)
    let quotient : Operand := .arithmetic .divide one (.literal (.int 0))
    let sum (name : String) : Operand := .arithmetic .add (.column ⟨none, name⟩) quotient
    let exchanged : Operand := .arithmetic .add quotient (.column ⟨none, "x"⟩)
    setting.distance scope (.not (.compare .eq (sum "x") one)) {} = (.infinite, {}) ∧
      setting.distance scope (.not (.compare .eq (sum "y") one)) {} = (.zero, {}) ∧
      setting.outcome scope (.not (.compare .eq (sum "x") one)) =
        setting.outcome scope (.not (.compare .eq exchanged one)) := by
  intro setting scope one quotient sum exchanged
  obtain ⟨hleaf, hcolumns, hexchange, -⟩ := invalid_part setting scope
  have hseen := (hleaf (.compare .eq (sum "x") one) (by decide) {} rfl).1
    (.inl (hcolumns _ (by decide) (by decide)))
  have hunseen := (hleaf (.compare .eq (sum "y") one) (by decide) {} rfl).2
    (not_or.2 ⟨by decide, id⟩)
  refine ⟨hseen.2.2, hunseen.2.2, ?_⟩
  apply hexchange
  refine .not (.here (.left .eq one (.here (.inl rfl) ?_)))
  intro a b ha
  cases ha

/-- On a row without columns the failed division makes a comparison invalid, but neither a sum in
which the column comes first nor a range of the column, and the negations of these two are
satisfied. -/
theorem lost_invalid_part :
    let setting : Setting := { config := {} }
    let scope : Scope := ⟨.empty, .empty⟩
    let x : Operand := .column ⟨none, "x"⟩
    let one : Operand := .literal (.int 1)
    let quotient : Operand := .arithmetic .divide one (.literal (.int 0))
    let comparison : Condition := .compare .eq x quotient
    let sum : Condition := .compare .eq (.arithmetic .add x quotient) one
    let exchanged : Condition := .compare .eq (.arithmetic .add quotient x) one
    let range : Condition := .between x quotient one
    quotient.value? scope = .error .invalid ∧
      (∀ c ∈ [comparison, sum, exchanged, range], c.HasInvalidPart scope) ∧
      (∀ c ∈ [comparison, exchanged], (setting.distance scope (.not c) {}).1 = .infinite) ∧
      ∀ c ∈ [sum, range], (setting.distance scope (.not c) {}).1 = .zero := by
  intro setting scope x one quotient comparison sum exchanged range
  exact ⟨by decide, by decide, by decide, by decide⟩

end Setting

end BranchDistance