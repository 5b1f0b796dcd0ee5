import BranchDistance.Evaluate.Leaf
import BranchDistance.Proofs.Binary64.Symmetry

/-!
# The values of operands

Arithmetic is evaluated from left to right and ends at the first part without a value
(`first_fault`).  Such a part is a column that is absent, which leaves the operand missing, or an
operation that fails, which makes it invalid.  So an operation that fails is only seen if no absent
column comes before it (`value?_eq_invalid_iff`).

Sums and products may be written in either order if their operands do not fail for different causes
(`value?_exchanged`); in any case they have the same value, if they have one at all
(`toOption_value?_exchanged`).
-/

namespace BranchDistance

variable {scope : Scope}

/-! ### Parts of operands -/

namespace Operand

/-- The parts of an operand in the order of their evaluation, itself the last. -/
def parts : Operand → List Operand
  | column c => [column c]
  | literal v => [literal v]
  | arithmetic op left right => left.parts ++ right.parts ++ [arithmetic op left right]

variable (scope) in
/-- The operand has a value. -/
def HasValue (o : Operand) : Prop := ∃ v, o.value? scope = .ok v

variable (scope) in
/-- A part of the operand fails on its own, for more than a column that is absent. -/
def HasInvalidPart (o : Operand) : Prop := ∃ part ∈ o.parts, part.value? scope = .error .invalid

instance (o : Operand) : Decidable (o.HasInvalidPart scope) :=
  inferInstanceAs (Decidable (∃ part ∈ o.parts, part.value? scope = .error .invalid))

variable (scope) in
/-- An invalid part of the operand comes before all columns that are absent. -/
def InvalidFirst (o : Operand) : Prop :=
  ∃ before part after, o.parts = before ++ part :: after ∧ part.value? scope = .error .invalid ∧
    ∀ c, column c ∈ before → scope.includes c = true

theorem hasValue_of_includes {c : Column} (h : scope.includes c = true) :
    (column c).HasValue scope := by
  obtain ⟨v, hv⟩ := Option.isSome_iff_exists.1 h
  refine ⟨v, ?_⟩
  rw [value?, hv]

theorem includes_of_hasValue {c : Column} (h : (column c).HasValue scope) :
    scope.includes c = true := by
  obtain ⟨v, hv⟩ := h
  rw [value?] at hv
  unfold Scope.includes
  cases hc : scope.get? c with
  | none => rw [hc] at hv; cases hv
  | some w => rfl

theorem not_hasValue_of_error {o : Operand} {cause : Cause} (h : o.value? scope = .error cause) :
    ¬ o.HasValue scope := by
  rintro ⟨v, hv⟩
  rw [h] at hv
  cases hv

theorem hasValue_of_arithmetic {op : Operation} {left right : Operand}
    (h : (arithmetic op left right).HasValue scope) :
    left.HasValue scope ∧ right.HasValue scope := by
  obtain ⟨v, hv⟩ := h
  rw [value?] at hv
  cases hl : left.value? scope with
  | error cause => rw [hl] at hv; cases hv
  | ok l =>
    cases hr : right.value? scope with
    | error cause => rw [hl, hr] at hv; cases hv
    | ok r => exact ⟨⟨l, hl⟩, ⟨r, hr⟩⟩

/-- What has a value has it in all its parts. -/
theorem HasValue.of_mem_parts {o : Operand} (h : o.HasValue scope) {part : Operand}
    (hpart : part ∈ o.parts) : part.HasValue scope := by
  induction o with
  | column c => rwa [List.mem_singleton.1 hpart]
  | literal v => rwa [List.mem_singleton.1 hpart]
  | arithmetic op left right ihl ihr =>
    obtain ⟨hl, hr⟩ := hasValue_of_arithmetic h
    rw [parts, List.mem_append, List.mem_append] at hpart
    rcases hpart with (hpart | hpart) | hpart
    · exact ihl hl hpart
    · exact ihr hr hpart
    · rwa [List.mem_singleton.1 hpart]

theorem mem_columns_of_mem_parts {o : Operand} {c : Column} (h : column c ∈ o.parts) :
    c ∈ o.columns := by
  induction o with
  | column c' => simpa [parts, columns] using h
  | literal v => simp [parts] at h
  | arithmetic op left right ihl ihr =>
    simp only [parts, List.mem_append, List.mem_singleton, reduceCtorEq, or_false] at h
    exact List.mem_append.2 (h.imp ihl ihr)

end Operand

theorem Operation.invalid_of_apply {op : Operation} {l r : Value} {cause : Cause}
    (h : op.apply l r = .error cause) : cause = .invalid := by
  have hvalues : ∀ l r : Value, op.onValues l r = .error cause → cause = .invalid := by
    intro l r h
    unfold onValues at h
    split at h
    · split at h
      · split at h
        · cases h
        · exact (Except.error.inj h).symm
      · exact (Except.error.inj h).symm
    · exact (Except.error.inj h).symm
  unfold apply at h
  split at h
  · cases h
  · split at h
    · split at h
      · cases h
      · exact hvalues _ _ h
    · exact hvalues _ _ h

namespace Operand

/-- Evaluation ends at the first part without a value, which is an absent column or an operation
that fails. -/
theorem first_fault {o : Operand} {cause : Cause} (h : o.value? scope = .error cause) :
    ∃ before part after, o.parts = before ++ part :: after ∧
      (∀ b ∈ before, b.HasValue scope) ∧ part.value? scope = .error cause ∧
      (cause = .missing → ∃ c, part = column c) := by
  -- the parts of an operation are those of its operands from left to right, then itself
  induction o with
  | literal v => cases h
  | column c => exact ⟨[], column c, [], rfl, by simp, h, fun _ => ⟨c, rfl⟩⟩
  | arithmetic op left right ihl ihr =>
    rw [parts]
    cases hl : left.value? scope with
    | error a =>
      obtain rfl : a = cause := by
        rw [value?, hl] at h
        exact Except.error.inj h
      obtain ⟨before, part, after, hparts, hbefore, hpart, hcolumn⟩ := ihl hl
      refine ⟨before, part, after ++ (right.parts ++ [arithmetic op left right]), ?_, hbefore,
        hpart, hcolumn⟩
      simp [hparts]
    | ok l =>
      have hleft : ∀ b ∈ left.parts, b.HasValue scope := fun b hb =>
        HasValue.of_mem_parts ⟨l, hl⟩ hb
      cases hr : right.value? scope with
      | error a =>
        obtain rfl : a = cause := by
          rw [value?, hl, hr] at h
          exact Except.error.inj h
        obtain ⟨before, part, after, hparts, hbefore, hpart, hcolumn⟩ := ihr hr
        refine ⟨left.parts ++ before, part, after ++ [arithmetic op left right], ?_, ?_, hpart,
          hcolumn⟩
        · simp [hparts]
        · exact List.forall_mem_append.2 ⟨hleft, hbefore⟩
      | ok r =>
        have hright : ∀ b ∈ right.parts, b.HasValue scope := fun b hb =>
          HasValue.of_mem_parts ⟨r, hr⟩ hb
        -- both operands have values, so the operation itself fails
        have happly : op.apply l r = .error cause := by
          rw [value?, hl, hr] at h
          exact h
        obtain rfl := Operation.invalid_of_apply happly
        exact ⟨left.parts ++ right.parts, arithmetic op left right, [], rfl,
          List.forall_mem_append.2 ⟨hleft, hright⟩, h, nofun⟩

theorem not_hasValue_of_invalidPart {o : Operand} (h : o.HasInvalidPart scope) :
    ¬ o.HasValue scope := by
  obtain ⟨part, hpart, hinvalid⟩ := h
  intro hv
  exact not_hasValue_of_error hinvalid (hv.of_mem_parts hpart)

/-- Of two elements of a list either one comes before the other or they are equal. -/
theorem eq_or_mem_of_append_cons {α : Type} {a b : α} {before after before' after' : List α}
    (h : before ++ a :: after = before' ++ b :: after') : a = b ∨ a ∈ before' ∨ b ∈ before := by
  induction before generalizing before' with
  | nil =>
    cases before' with
    | nil => exact .inl (List.cons.inj h).1
    | cons y before' => exact .inr (.inl (by simp [(List.cons.inj h).1]))
  | cons x before ih =>
    cases before' with
    | nil => exact .inr (.inr (by simp [← (List.cons.inj h).1]))
    | cons y before' =>
      obtain heq | hmem | hmem := ih (List.cons.inj h).2
      · exact .inl heq
      · exact .inr (.inl (List.mem_cons_of_mem y hmem))
      · exact .inr (.inr (List.mem_cons_of_mem x hmem))

/-- An operand is invalid exactly if an invalid part comes before all absent columns. -/
theorem value?_eq_invalid_iff {o : Operand} :
    o.value? scope = .error .invalid ↔ o.InvalidFirst scope := by
  constructor
  · intro h
    obtain ⟨before, part, after, hparts, hbefore, hpart, -⟩ := first_fault h
    exact ⟨before, part, after, hparts, hpart, fun c hc => includes_of_hasValue (hbefore _ hc)⟩
  · rintro ⟨before, part, after, hparts, hpart, hcolumns⟩
    have hmem : part ∈ o.parts := by simp [hparts]
    cases h : o.value? scope with
    | ok v => exact absurd ⟨v, h⟩ (not_hasValue_of_invalidPart ⟨part, hmem, hpart⟩)
    | error cause =>
      cases cause with
      | invalid => rfl
      | missing =>
        -- the absent column that ends the evaluation would have to come before the invalid part
        obtain ⟨before', part', after', hparts', hbefore', hpart', hcolumn⟩ := first_fault h
        obtain ⟨c, rfl⟩ := hcolumn rfl
        have habsent : column c ∉ before := fun hc =>
          not_hasValue_of_error hpart' (hasValue_of_includes (hcolumns c hc))
        have hne : part ≠ column c := by
          rintro rfl
          rw [hpart] at hpart'
          cases hpart'
        rcases eq_or_mem_of_append_cons (hparts.symm.trans hparts') with heq | hmem' | hmem'
        · exact absurd heq hne
        · exact absurd (hbefore' part hmem') (not_hasValue_of_error hpart)
        · exact absurd hmem' habsent

instance (o : Operand) : Decidable (o.InvalidFirst scope) :=
  decidable_of_iff _ value?_eq_invalid_iff

/-- With all its columns on the row an operand does not miss an invalid part. -/
theorem invalidFirst_of_columns {o : Operand} (hcolumns : ∀ c ∈ o.columns, scope.includes c = true)
    (h : ¬ o.HasValue scope) : o.InvalidFirst scope := by
  cases hv : o.value? scope with
  | ok v => exact absurd ⟨v, hv⟩ h
  | error cause =>
    cases cause with
    | invalid => exact value?_eq_invalid_iff.1 hv
    | missing =>
      obtain ⟨before, part, after, hparts, -, hpart, hcolumn⟩ := first_fault hv
      obtain ⟨c, rfl⟩ := hcolumn rfl
      have hc : c ∈ o.columns := mem_columns_of_mem_parts (by simp [hparts])
      exact absurd (hasValue_of_includes (hcolumns c hc)) (not_hasValue_of_error hpart)

end Operand

/-! ### Sums and products in either order -/

namespace Operation

/-- The operation does not depend on the order of its operands. -/
def Commutes (op : Operation) : Prop := op = add ∨ op = multiply

theorem Commutes.onIntegers {op : Operation} (h : op.Commutes) (a b : Int64) :
    op.onIntegers a b = op.onIntegers b a := by
  rcases h with rfl | rfl
  · simp only [Operation.onIntegers, Int.add_comm]
  · simp only [Operation.onIntegers, Int.mul_comm]

theorem Commutes.onValues {op : Operation} (h : op.Commutes) (l r : Value) :
    op.onValues l r = op.onValues r l := by
  unfold Operation.onValues
  cases l.asNumber? with
  | none => cases r.asNumber? <;> rfl
  | some a =>
    cases r.asNumber? with
    | none => rfl
    | some b =>
      rcases h with rfl | rfl
      · simp only [onNumbers, Binary64.add_comm a b]
      · simp only [onNumbers, Binary64.mul_comm a b]

theorem Commutes.apply {op : Operation} (h : op.Commutes) (l r : Value) :
    op.apply l r = op.apply r l := by
  unfold Operation.apply
  rw [Bool.or_comm r.isNull]
  by_cases hnull : (l.isNull || r.isNull) = true
  · rw [if_pos hnull, if_pos hnull]
  · rw [if_neg hnull, if_neg hnull]
    clear hnull
    cases l <;> cases r
    case int.int a b =>
      dsimp only
      rw [h.onIntegers a b, h.onValues]
    all_goals exact h.onValues _ _

end Operation

namespace Operand

variable (scope) in
/-- The operands do not fail for different causes. -/
def Agree (l r : Operand) : Prop :=
  ∀ a b, l.value? scope = .error a → r.value? scope = .error b → a = b

/-- The second operand is the first one with the operands of a sum or a product in it exchanged. -/
inductive Exchanged (P : Operand → Operand → Prop) : Operand → Operand → Prop
  | here {op : Operation} (hop : op.Commutes) {l r : Operand} (h : P l r) :
    Exchanged P (arithmetic op l r) (arithmetic op r l)
  | left (op : Operation) {l l' : Operand} (r : Operand) (h : Exchanged P l l') :
    Exchanged P (arithmetic op l r) (arithmetic op l' r)
  | right (op : Operation) (l : Operand) {r r' : Operand} (h : Exchanged P r r') :
    Exchanged P (arithmetic op l r) (arithmetic op l r')

theorem value?_exchange {op : Operation} (hop : op.Commutes) {l r : Operand}
    (h : l.Agree scope r) :
    (arithmetic op l r).value? scope = (arithmetic op r l).value? scope := by
  rw [value?, value?]
  cases hl : l.value? scope with
  | error a =>
    cases hr : r.value? scope with
    | error b => rw [h a b hl hr]
    | ok w => rfl
  | ok v =>
    cases hr : r.value? scope with
    | error b => rfl
    | ok w => exact hop.apply v w

theorem value?_exchanged {o o' : Operand} (h : Exchanged (Agree scope) o o') :
    o.value? scope = o'.value? scope := by
  induction h with
  | here hop h => exact value?_exchange hop h
  | left op r _ ih => rw [value?, value?, ih]
  | right op l _ ih => rw [value?, value?, ih]

theorem toOption_value?_arithmetic (op : Operation) (l r : Operand) :
    ((arithmetic op l r).value? scope).toOption =
      (l.value? scope).toOption.bind fun a =>
        (r.value? scope).toOption.bind fun b => (op.apply a b).toOption := by
  rw [value?]
  cases l.value? scope with
  | error cause => rfl
  | ok a => cases r.value? scope <;> rfl

/-- Without a value in the one order, a sum or a product has none in the other, whatever the
causes are. -/
theorem toOption_value?_exchanged {o o' : Operand} (h : Exchanged (fun _ _ => True) o o') :
    (o.value? scope).toOption = (o'.value? scope).toOption := by
  induction h with
  | @here op hop l r _ =>
    rw [toOption_value?_arithmetic, toOption_value?_arithmetic]
    cases l.value? scope with
    | error cause => cases r.value? scope <;> rfl
    | ok a => cases r.value? scope with
      | error cause => rfl
      | ok b => exact congrArg Except.toOption (hop.apply a b)
  | left op r _ ih => rw [toOption_value?_arithmetic, toOption_value?_arithmetic, ih]
  | right op l _ ih => rw [toOption_value?_arithmetic, toOption_value?_arithmetic, ih]

end Operand

end BranchDistance
