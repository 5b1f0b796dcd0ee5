import BranchDistance.Evaluate.Condition
import BranchDistance.Proofs.Binary64.Symmetry
import BranchDistance.Proofs.Distance
import BranchDistance.Proofs.Text.Order

/-!
# Mirrored comparisons

Swapping the sides of a comparison and turning its sign round changes nothing
(`mirrored_comparison`), whatever the sides are and whatever the constants of the configuration.

Two values are matched in the same way in either order (`ofValues?_swap`).  Where they are scored by
a gap, the gap of the swapped sides is the opposite one, and the score does not see the sign of a
zero (`ofGap_mirror`).
-/

namespace BranchDistance

open Binary64

/-- The relation that holds between two sides if and only if this one holds between the swapped
sides. -/
def Relation.mirror : Relation → Relation
  | .eq => .eq
  | .ne => .ne
  | .lt => .gt
  | .le => .ge
  | .gt => .lt
  | .ge => .le

/-! ### Scores of opposite gaps -/

theorem Distance.ofFloat_zero_add {z x : Float} (hz : sign? z = some 0) :
    ofFloat (z + x) = ofFloat x := by
  by_cases hx : sign? x = some 0
  · have hsum : sign? (z + x) = some 0 := sign?_add hz hx le_rfl le_rfl
    rw [ofFloat_of_nonpos (nonpos_iff_sign?.2 (.inl hsum)),
      ofFloat_of_nonpos (nonpos_iff_sign?.2 (.inl hx))]
  · rw [add_of_sign?_zero hz hx]

namespace Relation

variable (config : Config) (relation : Relation)

theorem score_mirror_neg (gap : Float) :
    relation.mirror.score config (-gap) = relation.score config gap := by
  have hlt : 0 < -gap ↔ gap < 0 := by
    rw [pos_iff_sign?, neg_iff_sign?, sign?_neg]
    rcases sign? gap with _ | a
    · simp
    · cases a <;> decide
  have hgt : -gap < 0 ↔ 0 < gap := by
    rw [pos_iff_sign?, neg_iff_sign?, sign?_neg]
    rcases sign? gap with _ | a
    · simp
    · cases a <;> decide
  have heq : (-gap == 0) = (gap == 0) := by
    rw [Bool.eq_iff_iff, beq_zero_iff_sign?, beq_zero_iff_sign?, sign?_neg]
    rcases sign? gap with _ | a
    · simp
    · cases a <;> decide
  cases relation with
  | eq => exact abs_neg gap
  | ne => simp only [mirror, score, heq]
  | lt => simp only [mirror, score, hlt, Binary64.neg_neg]
  | le => simp only [mirror, score, Binary64.neg_neg]
  | gt => simp only [mirror, score, hgt]
  | ge => simp only [mirror, score]

/-- A zero of either sign is scored alike. -/
theorem ofFloat_score_zero {z : Float} (hz : sign? z = some 0) :
    Distance.ofFloat (relation.score config z) = match relation with
      | .ne => .ofFloat config.penalty
      | .lt | .gt => .ofFloat config.epsilon
      | _ => .zero := by
  have hneg : sign? (-z) = some 0 := by rw [sign?_neg, hz]; rfl
  have hpos : ¬ 0 < z := by rw [pos_iff_sign?, hz]; decide
  have hpos' : ¬ 0 < -z := by rw [pos_iff_sign?, hneg]; decide
  have hlt : ¬ z < 0 := by rw [neg_iff_sign?, hz]; decide
  cases relation with
  | eq =>
    have habs : sign? z.abs = some 0 := by rw [sign?_abs, hz]; rfl
    exact Distance.ofFloat_of_nonpos (nonpos_iff_sign?.2 (.inl habs))
  | ne => rw [score, if_pos (beq_zero_iff_sign?.2 hz)]
  | lt => rw [score, if_neg hlt, Distance.ofFloat_zero_add hz]
  | le => rw [score, if_neg hpos]; rfl
  | gt => rw [score, if_neg hpos, Distance.ofFloat_zero_add hneg]
  | ge => rw [score, if_neg hpos']; rfl

/-- Opposite gaps have the same outcome under mirrored relations. -/
theorem ofGap_mirror {gap gap' : Float} (h : IsOpposite gap gap') :
    relation.mirror.ofGap config gap' = relation.ofGap config gap := by
  have hnan : gap'.isNaN = gap.isNaN := by
    rw [Bool.eq_iff_iff, isNaN_iff_sign?, isNaN_iff_sign?, h.sign?, Option.map_eq_none_iff]
  have hscore : Distance.ofFloat (relation.mirror.score config gap') =
      Distance.ofFloat (relation.score config gap) := by
    rcases h with rfl | ⟨hz, hz'⟩
    · rw [score_mirror_neg]
    · rw [ofFloat_score_zero config _ hz, ofFloat_score_zero config _ hz']
      cases relation <;> rfl
  unfold ofGap Outcome.ofFloat
  rw [hnan, hscore]

end Relation

/-! ### Values -/

namespace Matched

/-- The two values in the other order. -/
def swap : Matched → Matched
  | null => null
  | integers a b => integers b a
  | numbers a b => numbers b a
  | texts a b => texts b a
  | bools a b => bools b a

theorem ofTexts_swap (a b : String) : ofTexts b a = (ofTexts a b).swap := by
  unfold ofTexts
  cases Calendar.instantMillis? a.toList <;> cases Calendar.instantMillis? b.toList <;>
    cases Calendar.timeMillis? a.toList <;> cases Calendar.timeMillis? b.toList <;> rfl

theorem both_swap {α : Type} {make : α → α → Matched} (h : ∀ a b, make b a = (make a b).swap)
    (x y : Option α) : both make y x = (both make x y).map swap := by
  cases x with
  | none => cases y <;> rfl
  | some a =>
    cases y with
    | none => rfl
    | some b => exact congrArg some (h a b)

/-- Values are matched in the same way in either order. -/
theorem ofValues?_swap (l r : Value) : ofValues? r l = (ofValues? l r).map swap := by
  have hrest : (if r.isNull || l.isNull then some null
      else if r.family == .bool || l.family == .bool then both bools r.asBool? l.asBool?
      else both numbers r.asNumber? l.asNumber?) =
    (if l.isNull || r.isNull then some null
      else if l.family == .bool || r.family == .bool then both bools l.asBool? r.asBool?
      else both numbers l.asNumber? r.asNumber?).map swap := by
    rw [Bool.or_comm r.isNull, Bool.or_comm (r.family == .bool)]
    split
    · rfl
    · split
      · exact both_swap (fun _ _ => rfl) _ _
      · exact both_swap (fun _ _ => rfl) _ _
  -- two integers and two texts are matched by themselves, all other pairs by the same tests
  cases l <;> cases r
  case int.int => rfl
  case text.text a b => exact congrArg some (ofTexts_swap a b)
  all_goals exact hrest

end Matched

theorem Relation.ofTexts_mirror (config : Config) (relation : Relation) (a b : String) :
    relation.mirror.ofTexts config b a = relation.ofTexts config a b := by
  cases relation with
  | eq =>
    simp only [mirror, ofTexts, eq_comm (a := b)]
    rw [Text.alignmentDistance_comm]
  | _ => exact ofGap_mirror config _ (Text.isOpposite_orderGap a b)

theorem Relation.outcome_mirror (config : Config) (relation : Relation) (l r : Value) :
    relation.mirror.outcome config r l = relation.outcome config l r := by
  unfold outcome
  rw [Matched.ofValues?_swap l r]
  rcases Matched.ofValues? l r with _ | (_ | ⟨a, b⟩ | ⟨a, b⟩ | ⟨a, b⟩ | ⟨a, b⟩)
  case some.integers =>
    have hgap := isOpposite_ofInt (a - b)
    rw [Int.neg_sub] at hgap
    exact ofGap_mirror config relation hgap
  case some.numbers => exact ofGap_mirror config relation (isOpposite_sub a b)
  case some.texts => exact ofTexts_mirror config relation a b
  case some.bools => cases relation <;> cases a <;> cases b <;> rfl
  all_goals rfl

theorem Outcome.ofOperands_swap {f g : Value → Value → Outcome} (h : ∀ a b, g b a = f a b)
    (l r : Except Cause Value) : ofOperands g r l = ofOperands f l r := by
  cases l with
  | error a =>
    cases r with
    | error b => cases a <;> cases b <;> rfl
    | ok v => rfl
  | ok u =>
    cases r with
    | error b => rfl
    | ok v => exact h u v

/-- A comparison and its mirror image are evaluated in the same way, over every row and in every
setting. -/
theorem Setting.mirrored_comparison (setting : Setting) (scope : Scope) (relation : Relation)
    (left right : Operand) :
    Leaf.compare setting.config scope relation left right =
        Leaf.compare setting.config scope relation.mirror right left ∧
      setting.outcome scope (.compare relation left right) =
        setting.outcome scope (.compare relation.mirror right left) := by
  have hleaf : Leaf.compare setting.config scope relation left right =
      Leaf.compare setting.config scope relation.mirror right left :=
    (Outcome.ofOperands_swap (relation.outcome_mirror setting.config) _ _).symm
  refine ⟨hleaf, ?_⟩
  rw [outcome, outcome, hleaf]

end BranchDistance
