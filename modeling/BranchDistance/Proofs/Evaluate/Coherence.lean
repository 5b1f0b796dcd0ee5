import BranchDistance.Proofs.Evaluate.Integral
import BranchDistance.Proofs.Text.Order

/-!
# The coherence of relations

The six relations between two values are scored by different formulas, but all of them draw the
boundary at the same place (`coherent`).

* Two values that have a gap decide every relation by the sign of the gap (`decides_of_gap?`).  This
  includes the equality of texts, which is scored by other means: neither the order gap nor the
  alignment distance of different texts is zero (`orderDifference_eq_zero_iff`,
  `alignmentCost_eq_zero_iff`).
* Where no gap exists, or where it is not a number, all relations are unknown for the same cause.
  Truth values decide equality only.
-/

namespace BranchDistance

open Binary64

/-! ### Complementary outcomes -/

namespace Outcome

/-- Both outcomes are unknown for the same cause, or both are known and exactly one of them is
zero. -/
def AreComplementary (o o' : Outcome) : Prop :=
  (∃ cause, o = .unknown cause ∧ o' = .unknown cause) ∨
    ∃ d d', o = .known d ∧ o' = .known d' ∧ Xor (d = .zero) (d' = .zero)

theorem exists_known_of_decides {o : Outcome} {P : Prop} (h : o.grade.Decides P) :
    ∃ d, o = .known d ∧ (d = .zero ↔ P) := by
  cases o with
  | known d => exact ⟨d, rfl, by rw [← h.eq_satisfied_iff, ← distance_eq_zero_iff]; rfl⟩
  | unknown cause =>
    rcases h with ⟨h, -⟩ | ⟨h, -⟩ <;> cases cause <;> cases h

theorem areComplementary_of_decides {o o' : Outcome} {P : Prop} (h : o.grade.Decides P)
    (h' : o'.grade.Decides (¬ P)) : AreComplementary o o' := by
  obtain ⟨d, rfl, hd⟩ := exists_known_of_decides h
  obtain ⟨d', rfl, hd'⟩ := exists_known_of_decides h'
  refine .inr ⟨d, d', rfl, rfl, ?_⟩
  rw [xor_def, hd, hd']
  tauto

end Outcome

/-! ### The gap of two values -/

/-- The gap between two values of one kind, left minus right; null and truth values have none. -/
def Matched.gap? : Matched → Option Float
  | null => none
  | integers a b => some (ofInt (a - b))
  | numbers a b => some (a - b)
  | texts a b => some (Text.orderGap a b)
  | bools _ _ => none

/-- Whether a value is neither null nor a truth value. -/
def Value.IsOrdered (v : Value) : Prop := v.family ≠ .null ∧ v.family ≠ .bool

theorem Matched.exists_gap? {l r : Value} (hl : l.IsOrdered) (hr : r.IsOrdered) {m : Matched}
    (h : ofValues? l r = some m) : ∃ gap, m.gap? = some gap := by
  have hboth {x y : Option Float} (h : both numbers x y = some m) : ∃ gap, m.gap? = some gap := by
    cases x with
    | none => cases h
    | some a =>
      cases y with
      | none => cases h
      | some b => exact ⟨a - b, by rw [← Option.some.inj h]; rfl⟩
  have htexts (a b : String) : ∃ gap, (ofTexts a b).gap? = some gap := by
    unfold ofTexts
    split
    · exact ⟨_, rfl⟩
    · split <;> exact ⟨_, rfl⟩
  have hnull : ¬ (l.isNull || r.isNull) = true := by
    rw [Bool.or_eq_true, Value.isNull, Value.isNull, beq_iff_eq, beq_iff_eq]
    exact not_or.2 ⟨hl.1, hr.1⟩
  have hbool : ¬ (l.family == .bool || r.family == .bool) = true := by
    rw [Bool.or_eq_true, beq_iff_eq, beq_iff_eq]
    exact not_or.2 ⟨hl.2, hr.2⟩
  unfold ofValues? at h
  split at h
  · exact ⟨_, by rw [← Option.some.inj h]; rfl⟩
  · rw [← Option.some.inj h]
    exact htexts _ _
  · rw [if_neg hnull, if_neg hbool] at h
    exact hboth h

namespace Relation

/-- The relation that holds exactly where this one fails. -/
def complement : Relation → Relation
  | .eq => .ne
  | .ne => .eq
  | .lt => .ge
  | .ge => .lt
  | .gt => .le
  | .le => .gt

theorem holds_complement (relation : Relation) (a : SignType) :
    relation.complement.holds a = true ↔ ¬ relation.holds a = true := by
  cases relation <;> cases a <;> decide

theorem existsUnique_holds (a : SignType) :
    ∃! relation, relation ∈ [lt, eq, gt] ∧ relation.holds a = true := by
  have hunique {r : Relation} (hr : r ∈ [lt, eq, gt] ∧ r.holds a = true)
      (hne : ∀ s ∈ [lt, eq, gt], s.holds a = true → s = r) :
      ∃! relation, relation ∈ [lt, eq, gt] ∧ relation.holds a = true :=
    ⟨r, hr, fun s hs => hne s hs.1 hs.2⟩
  cases a with
  | neg => exact hunique (r := lt) (by decide) (by decide)
  | zero => exact hunique (r := eq) (by decide) (by decide)
  | pos => exact hunique (r := gt) (by decide) (by decide)

variable {config : Config} (hv : config.IsValid) {l r : Value} {m : Matched} {gap : Float}

include hv

theorem decides_ofGap (relation : Relation) {s : SignType} (hs : sign? gap = some s) :
    (relation.ofGap config gap).grade.Decides (relation.holds s = true) := by
  rw [(relation.ofGap_of_sign? hv hs).2]
  exact .of_ite Iff.rfl

/-- Texts decide every relation by the sign of their order gap. -/
theorem decides_ofTexts (relation : Relation) (a b : String) {s : SignType}
    (hs : sign? (Text.orderGap a b) = some s) :
    (relation.ofTexts config a b).grade.Decides (relation.holds s = true) := by
  cases relation with
  | eq =>
    -- equality is scored by the alignment distance or the penalty, not by the gap
    have hzero : eq.holds s = true ↔ a = b := by
      rw [Text.orderGap, sign?_ofInt, Option.some_inj] at hs
      rw [← hs, show eq.holds (SignType.sign _) = true ↔ _ from beq_iff_eq, sign_eq_zero_iff,
        Text.orderDifference_eq_zero_iff, String.toList_inj]
    refine Grade.Decides.congr ?_ hzero.symm
    rw [ofTexts]
    by_cases hab : a = b
    · rw [if_pos hab]
      exact .inl ⟨rfl, hab⟩
    · rw [if_neg hab]
      cases config.textMode with
      | leftAlignment =>
        have hcost : 0 < Text.alignmentCost a.toList b.toList := by
          rw [Nat.pos_iff_ne_zero, Ne, Text.alignmentCost_eq_zero_iff, String.toList_inj]
          exact hab
        have hsign : sign? (Text.alignmentDistance a b) = some 1 := by
          rw [Text.alignmentDistance, sign?_ofInt, sign_pos (by exact_mod_cast hcost)]
        exact .inr ⟨(Outcome.ofFloat_of_sign? hsign).2, hab⟩
      | constant => exact .inr ⟨(Outcome.ofBool_of_isUsable hv.1 false).2, hab⟩
  | _ => exact decides_ofGap hv _ hs

/-- The sign of the gap decides every relation. -/
theorem decides_of_gap? (hm : Matched.ofValues? l r = some m) (hgap : m.gap? = some gap)
    {s : SignType} (hs : sign? gap = some s) (relation : Relation) :
    (relation.outcome config l r).grade.Decides (relation.holds s = true) := by
  have hofGap := decides_ofGap hv relation hs
  rw [outcome, hm]
  cases m with
  | null => cases hgap
  | integers a b => rwa [← Option.some.inj hgap] at hofGap
  | numbers a b => rwa [← Option.some.inj hgap] at hofGap
  | texts a b =>
    rw [← Option.some.inj hgap] at hs
    exact decides_ofTexts hv relation a b hs
  | bools a b => cases hgap

/-- Where nothing decides the relations, they are unknown for one cause, but for the equality of
truth values. -/
theorem unknown_or_decides (l r : Value) :
    (∃ cause, ∀ relation : Relation, relation.outcome config l r = .unknown cause) ∨
      (∃ s, ∀ relation : Relation,
        (relation.outcome config l r).grade.Decides (relation.holds s = true)) ∨
      ∃ a b, Matched.ofValues? l r = some (.bools a b) := by
  rcases hm : Matched.ofValues? l r with _ | (_ | ⟨a, b⟩ | ⟨a, b⟩ | ⟨a, b⟩ | ⟨a, b⟩)
  · exact .inl ⟨.invalid, fun relation => by rw [outcome, hm]; rfl⟩
  · exact .inl ⟨.missing, fun relation => by rw [outcome, hm]; rfl⟩
  · exact .inr (.inl ⟨_, decides_of_gap? hv hm rfl (sign?_ofInt _)⟩)
  · -- the difference of two infinities is not a number
    rcases hs : sign? (a - b) with _ | s
    · refine .inl ⟨.invalid, fun relation => ?_⟩
      rw [outcome, hm]
      exact if_pos (isNaN_iff_sign?.2 hs)
    · exact .inr (.inl ⟨s, decides_of_gap? hv hm rfl hs⟩)
  · exact .inr (.inl ⟨_, decides_of_gap? hv hm rfl (sign?_ofInt _)⟩)
  · exact .inr (.inr ⟨a, b, rfl⟩)

theorem areComplementary_ofBools (relation : Relation) (a b : Bool) :
    Outcome.AreComplementary (relation.ofBools config a b)
      (relation.complement.ofBools config a b) := by
  have hbool (b : Bool) : (Outcome.ofBool config.penalty b).grade.Decides (b = true) := by
    rw [(Outcome.ofBool_of_isUsable hv.1 b).2]
    exact .of_ite Iff.rfl
  cases relation with
  | eq =>
    exact Outcome.areComplementary_of_decides (hbool (a == b))
      ((hbool (a != b)).congr (by cases a <;> cases b <;> decide))
  | ne =>
    exact Outcome.areComplementary_of_decides (hbool (a != b))
      ((hbool (a == b)).congr (by cases a <;> cases b <;> decide))
  | _ => exact .inl ⟨.invalid, rfl, rfl⟩

/-- Of two complementary relations exactly one is satisfied, if anything is known. -/
theorem areComplementary_outcome (relation : Relation) (l r : Value) :
    Outcome.AreComplementary (relation.outcome config l r)
      (relation.complement.outcome config l r) := by
  rcases unknown_or_decides hv l r with ⟨cause, h⟩ | ⟨s, h⟩ | ⟨a, b, hm⟩
  · exact .inl ⟨cause, h _, h _⟩
  · exact Outcome.areComplementary_of_decides (h relation)
      ((h relation.complement).congr (relation.holds_complement s))
  · have houtcome (relation : Relation) :
        relation.outcome config l r = relation.ofBools config a b := by rw [outcome, hm]
    rw [houtcome, houtcome]
    exact areComplementary_ofBools hv relation a b

/-- A weak relation is satisfied exactly if the strict one or equality is. -/
theorem weak_eq_zero_iff {weak strict : Relation}
    (hmem : (weak, strict) ∈ [(le, lt), (ge, gt)]) {d d₁ d₂ : Distance}
    (h : weak.outcome config l r = .known d) (h₁ : strict.outcome config l r = .known d₁)
    (h₂ : eq.outcome config l r = .known d₂) : d = .zero ↔ d₁ = .zero ∨ d₂ = .zero := by
  rcases unknown_or_decides hv l r with ⟨cause, hu⟩ | ⟨s, hd⟩ | ⟨a, b, hm⟩
  · cases (hu weak).symm.trans h
  · have hzero {relation : Relation} {d : Distance}
        (h : relation.outcome config l r = .known d) :
        d = .zero ↔ relation.holds s = true := by
      obtain ⟨d', h', hd'⟩ := Outcome.exists_known_of_decides (hd relation)
      cases h.symm.trans h'
      exact hd'
    rw [hzero h, hzero h₁, hzero h₂]
    rcases List.mem_pair.1 hmem with hw | hw <;> cases hw <;> cases s <;> decide
  · -- truth values have no order, so the three relations are not all known
    have hinvalid : strict.outcome config l r = .invalid := by
      rw [outcome, hm]
      rcases List.mem_pair.1 hmem with hw | hw <;> cases hw <;> rfl
    cases hinvalid.symm.trans h₁

/-- Two values with a gap are less, equal or greater. -/
theorem existsUnique_eq_zero (hm : Matched.ofValues? l r = some m) (hgap : m.gap? = some gap)
    (hn : gap.isNaN = false) :
    ∃! relation, relation ∈ [lt, eq, gt] ∧ (relation.outcome config l r).distance = .zero := by
  obtain ⟨s, hs⟩ := Option.ne_none_iff_exists'.1 (mt isNaN_iff_sign?.2 (Bool.eq_false_iff.1 hn))
  have hzero (relation : Relation) :
      (relation.outcome config l r).distance = .zero ↔ relation.holds s = true := by
    rw [Outcome.distance_eq_zero_iff]
    exact (decides_of_gap? hv hm hgap hs relation).eq_satisfied_iff
  simp only [hzero]
  exact existsUnique_holds s

/-- The six relations are coherent.  Complementary ones are unknown for one cause, or exactly one of
them is zero; a weak relation is zero exactly if the strict one or equality is; and of two values
that have a gap exactly one of the three relations `<`, `=` and `>` is zero. -/
theorem coherent (l r : Value) :
    let outcome (relation : Relation) := relation.outcome config l r
    (∀ relation, Outcome.AreComplementary (outcome relation) (outcome relation.complement)) ∧
      (∀ weak strict, (weak, strict) ∈ [(le, lt), (ge, gt)] →
        ∀ d d₁ d₂, outcome weak = .known d → outcome strict = .known d₁ →
          outcome eq = .known d₂ → (d = .zero ↔ d₁ = .zero ∨ d₂ = .zero)) ∧
      (l.IsOrdered → r.IsOrdered → ∀ m, Matched.ofValues? l r = some m →
        ∃ gap, m.gap? = some gap ∧ (gap.isNaN = false →
          ∃! relation, relation ∈ [lt, eq, gt] ∧ (outcome relation).distance = .zero)) := by
  intro outcome
  refine ⟨fun relation => areComplementary_outcome hv relation l r,
    fun weak strict hmem d d₁ d₂ h h₁ h₂ => weak_eq_zero_iff hv hmem h h₁ h₂,
    fun hl hr m hm => ?_⟩
  obtain ⟨gap, hgap⟩ := Matched.exists_gap? hl hr hm
  exact ⟨gap, hgap, existsUnique_eq_zero hv hm hgap⟩

omit hv in
/-- An integer and a number that are told apart only before the integer is rounded. -/
theorem coherent_rounded :
    let l : Value := .int 9007199254740993
    let r : Value := .float 9007199254740992
    ({} : Config).IsValid ∧ l.IsOrdered ∧ r.IsOrdered ∧
      (∃! relation : Relation, relation ∈ [lt, eq, gt] ∧
        (relation.outcome {} l r).distance = .zero) ∧
      ((le.outcome {} l r).distance = .zero ↔
        (lt.outcome {} l r).distance = .zero ∨ (eq.outcome {} l r).distance = .zero) := by
  intro l r
  have hl : l.IsOrdered := ⟨by decide, by decide⟩
  have hr : r.IsOrdered := ⟨by decide, by decide⟩
  obtain ⟨-, hweak, hgap⟩ := coherent Config.isValid_default l r
  obtain ⟨gap, hg, hunique⟩ := hgap hl hr _ rfl
  have hn : gap.isNaN = false := by
    rw [← Option.some.inj hg]
    decide
  exact ⟨Config.isValid_default, hl, hr, hunique hn,
    hweak le lt (by decide) _ _ _ rfl rfl rfl⟩

end Relation

end BranchDistance
