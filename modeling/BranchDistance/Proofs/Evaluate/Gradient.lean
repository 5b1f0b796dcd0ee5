import BranchDistance.Proofs.Distance.Sum
import BranchDistance.Proofs.Evaluate.Integral

/-!
# The gradient on integers

A relation between two integers that fails is violated by the distance of the two.  Its branch
distance is that of the violation, together with a constant if the relation is strict
(`distance_of_violated`), and so never falls when the violation grows (`gradient`).

Violations below `2 ^ 53` are not rounded, so there the branch distance grows strictly; for the
strict relations this needs that the constant is one.

No integers are too far apart: their difference fits into 128 binary digits, and neither it nor the
score made of it is beyond the finite numbers (`isFinite_score`).
-/

namespace BranchDistance

open Binary64

namespace Relation

instance (relation : Relation) (a b : ℤ) : Decidable (relation.HoldsFor a b) :=
  match relation with
  | .eq => inferInstanceAs (Decidable (a = b))
  | .ne => inferInstanceAs (Decidable (a ≠ b))
  | .lt => inferInstanceAs (Decidable (a < b))
  | .le => inferInstanceAs (Decidable (a ≤ b))
  | .gt => inferInstanceAs (Decidable (a > b))
  | .ge => inferInstanceAs (Decidable (a ≥ b))

/-- How far a relation is from holding between two integers. -/
def violation (relation : Relation) (a b : ℤ) : ℕ :=
  if relation.HoldsFor a b then 0 else (a - b).natAbs

/-- What a violated relation still lacks at its boundary. -/
def slack (config : Config) : Relation → Distance
  | .lt | .gt => .ofFloat config.epsilon
  | .eq | .ne | .le | .ge => .zero

variable {config : Config}

/-! ### Scores of integral gaps -/

section Magnitude

variable {n : ℤ}

theorem ofFloat_abs_ofInt (n : ℤ) : Distance.ofFloat (ofInt n).abs = .ofNat n.natAbs := by
  have hsign : sign? (ofInt n).abs = some (SignType.sign n * SignType.sign n) := by
    rw [sign?_abs, sign?_ofInt]
    rfl
  refine Distance.ofFloat_eq_ofNat hsign (by cases SignType.sign n <;> decide) ?_
  rw [view_abs, units_abs, units_ofInt]

theorem ofFloat_ofInt (h : 0 ≤ n) : Distance.ofFloat (ofInt n) = .ofNat n.natAbs :=
  Distance.ofFloat_eq_ofNat (sign?_ofInt n) (sign_nonneg_iff.2 h) (units_ofInt n)

theorem sign?_neg_ofInt (n : ℤ) : sign? (-ofInt n) = some (SignType.sign (-n)) := by
  rw [sign?_neg, sign?_ofInt, Left.sign_neg]
  rfl

theorem units_neg_ofInt (n : ℤ) :
    units (view (-ofInt n)) = min (nearest (n.natAbs * 2 ^ onePlace)) limit := by
  rw [view_neg, units_neg, units_ofInt]

theorem ofFloat_neg_ofInt (h : n ≤ 0) : Distance.ofFloat (-ofInt n) = .ofNat n.natAbs :=
  Distance.ofFloat_eq_ofNat (sign?_neg_ofInt n) (sign_nonneg_iff.2 (by omega)) (units_neg_ofInt n)

theorem isFinite_neg_ofInt (h : n.natAbs ≤ 2 ^ 64) : (-ofInt n).isFinite = true := by
  rw [isFinite_neg]
  exact isFinite_ofInt h

theorem isFinite_of_isUsable {x : Float} (h : Config.isUsable x = true) : x.isFinite = true := by
  rw [Config.isUsable, Bool.and_eq_true] at h
  exact h.1

theorem sign?_epsilon (hv : config.IsValid) :
    sign? config.epsilon = some 1 ∧ config.epsilon.isFinite = true :=
  ⟨(Distance.ofFloat_of_isUsable hv.2).1, isFinite_of_isUsable hv.2⟩

/-- The score of a violated relation is the violation and the constant at its boundary. -/
theorem ofFloat_score (hv : config.IsValid) {relation : Relation} (hne : relation ≠ .ne)
    (hn : n.natAbs ≤ 2 ^ 64) (h : ¬ relation.holds (SignType.sign n) = true) :
    Distance.ofFloat (relation.score config (ofInt n)) =
      .ofNat n.natAbs + relation.slack config := by
  obtain ⟨hepsilon, hfinite⟩ := sign?_epsilon hv
  have hpos : 0 < ofInt n ↔ 0 < n := by
    rw [pos_iff_sign?, sign?_ofInt, Option.some_inj, sign_eq_one_iff]
  have hneg : ofInt n < 0 ↔ n < 0 := by
    rw [neg_iff_sign?, sign?_ofInt, Option.some_inj, sign_eq_neg_one_iff]
  have hpos' : 0 < -ofInt n ↔ n < 0 := by
    rw [pos_iff_sign?, sign?_neg_ofInt, Option.some_inj, sign_eq_one_iff]
    omega
  cases relation with
  | eq =>
    rw [score, slack, Distance.add_zero]
    exact ofFloat_abs_ofInt n
  | ne => exact absurd rfl hne
  | lt =>
    have hge : 0 ≤ n := by
      rw [holds, beq_iff_eq, sign_eq_neg_one_iff] at h
      omega
    rw [score, if_neg (by rw [hneg]; omega),
      Distance.ofFloat_add (sign?_ofInt n) hepsilon (sign_nonneg_iff.2 hge) (by decide)
        (isFinite_ofInt hn) hfinite, ofFloat_ofInt hge]
    rfl
  | le =>
    have hgt : 0 < n := by
      rw [holds, bne_iff_ne, not_not, sign_eq_one_iff] at h
      exact h
    rw [score, if_pos (hpos.2 hgt), ofFloat_ofInt hgt.le, slack, Distance.add_zero]
  | gt =>
    have hle : n ≤ 0 := by
      rw [holds, beq_iff_eq, sign_eq_one_iff] at h
      omega
    rw [score, if_neg (by rw [hpos]; omega),
      Distance.ofFloat_add (sign?_neg_ofInt n) hepsilon (sign_nonneg_iff.2 (by omega)) (by decide)
        (isFinite_neg_ofInt hn) hfinite, ofFloat_neg_ofInt hle]
    rfl
  | ge =>
    have hlt : n < 0 := by
      rw [holds, bne_iff_ne, not_not, sign_eq_neg_one_iff] at h
      exact h
    rw [score, if_pos (hpos'.2 hlt), ofFloat_neg_ofInt hlt.le, slack, Distance.add_zero]

/-- The constant at the boundary may be as large as it likes: the sum is still finite. -/
theorem isFinite_add_epsilon (hv : config.IsValid) {x : Float} {s : SignType}
    (hs : sign? x = some s) (hs0 : 0 ≤ s) (hn : n.natAbs ≤ 2 ^ 64)
    (hx : units (view x) = min (nearest (n.natAbs * 2 ^ onePlace)) limit) :
    (x + config.epsilon).isFinite = true := by
  obtain ⟨hepsilon, hfinite⟩ := sign?_epsilon hv
  have hpow : 2 ^ 64 * 2 ^ onePlace = nearest (2 ^ 64 * 2 ^ onePlace) := by
    rw [show 2 ^ 64 * 2 ^ onePlace = 1 * 2 ^ (64 + onePlace) by ring,
      nearest_mul_two_pow (by omega)]
  have hunits : units (view x) ≤ 2 ^ 64 * 2 ^ onePlace := by
    rw [hx, hpow]
    exact (min_le_left _ _).trans (nearest_mono (Nat.mul_le_mul_right _ hn))
  apply isFinite_of_units_lt (sign?_add hs hepsilon hs0 (by decide))
  rw [units_add hs hepsilon hs0 (by decide), Nat.add_comm]
  exact (min_le_left _ _).trans_lt (nearest_add_lt_limit (units_view_finite hfinite) hunits)

/-- No score of an integral gap overflows. -/
theorem isFinite_score (hv : config.IsValid) (relation : Relation) (hn : n.natAbs ≤ 2 ^ 64) :
    (relation.score config (ofInt n)).isFinite = true := by
  have hzero : (0 : Float).isFinite = true := by decide
  cases relation with
  | eq =>
    apply isFinite_of_units_lt (sign?_abs _ |>.trans (congrArg _ (sign?_ofInt n)))
    rw [view_abs, units_abs]
    exact units_lt_limit (isFinite_ofInt hn)
  | ne =>
    rw [score]
    split
    · exact isFinite_of_isUsable hv.1
    · exact hzero
  | lt =>
    rw [score]
    split
    · exact hzero
    · next h =>
      rw [neg_iff_sign?, sign?_ofInt, Option.some_inj, sign_eq_neg_one_iff, not_lt] at h
      exact isFinite_add_epsilon hv (sign?_ofInt n) (sign_nonneg_iff.2 h) hn (units_ofInt n)
  | le =>
    rw [score]
    split
    · exact isFinite_ofInt hn
    · exact hzero
  | gt =>
    rw [score]
    split
    · exact hzero
    · next h =>
      rw [pos_iff_sign?, sign?_ofInt, Option.some_inj, sign_eq_one_iff, not_lt] at h
      exact isFinite_add_epsilon hv (sign?_neg_ofInt n) (sign_nonneg_iff.2 (by omega)) hn
        (units_neg_ofInt n)
  | ge =>
    rw [score]
    split
    · exact isFinite_neg_ofInt hn
    · exact hzero

end Magnitude

/-! ### Distances between integers -/

theorem natAbs_sub_le (a b : Int64) : (a.toInt - b.toInt).natAbs ≤ 2 ^ 64 := by
  have ha := a.le_toInt
  have ha' := a.toInt_lt
  have hb := b.le_toInt
  have hb' := b.toInt_lt
  omega

/-- A difference of integers of 64 digits fits into 128 digits. -/
theorem toInt_signExtend_sub (a b : Int64) :
    (a.toBitVec.signExtend 128 - b.toBitVec.signExtend 128).toInt = a.toInt - b.toInt := by
  have hwiden (n : Int64) : (n.toBitVec.signExtend 128).toInt = n.toInt :=
    BitVec.toInt_signExtend_of_le (by omega)
  have ha := a.le_toInt
  have ha' := a.toInt_lt
  have hb := b.le_toInt
  have hb' := b.toInt_lt
  rw [BitVec.toInt_sub, hwiden, hwiden]
  exact Int.bmod_eq_of_le (by omega) (by omega)

theorem outcome_int_eq (relation : Relation) (a b : Int64) :
    relation.outcome config (.int a) (.int b) =
      .ofFloat (relation.score config (ofInt (a.toInt - b.toInt))) := by
  have hn : ¬ (ofInt (a.toInt - b.toInt)).isNaN = true := by
    rw [isNaN_iff_sign?, sign?_ofInt]
    simp
  exact if_neg hn

/-- The branch distance of a relation that holds. -/
theorem distance_of_holdsFor (hv : config.IsValid) {relation : Relation} {a b : Int64}
    (h : relation.HoldsFor a.toInt b.toInt) :
    (relation.outcome config (.int a) (.int b)).distance = .zero := by
  rw [Outcome.distance_eq_zero_iff]
  exact (relation.outcome_int hv a b).eq_satisfied_iff.2 h

theorem distance_ne_zero (hv : config.IsValid) {relation : Relation} {a b : Int64}
    (h : ¬ relation.HoldsFor a.toInt b.toInt) :
    (relation.outcome config (.int a) (.int b)).distance ≠ .zero := by
  rw [Ne, Outcome.distance_eq_zero_iff]
  exact mt (relation.outcome_int hv a b).eq_satisfied_iff.1 h

/-- The branch distance of a relation that fails. -/
theorem distance_of_violated (hv : config.IsValid) {relation : Relation} (hne : relation ≠ .ne)
    {a b : Int64} (h : ¬ relation.HoldsFor a.toInt b.toInt) :
    (relation.outcome config (.int a) (.int b)).distance =
      .ofNat (relation.violation a.toInt b.toInt) + relation.slack config := by
  rw [outcome_int_eq, violation, if_neg h]
  exact ofFloat_score hv hne (natAbs_sub_le a b) (mt (relation.holds_sign_iff _ _).1 h)

/-- Below `2 ^ 53` violations are told apart, if the constant at the boundary does not blur them. -/
theorem ofNat_add_slack_lt {relation : Relation}
    (h : relation ∈ [eq, le, ge] ∨ relation ∈ [lt, gt] ∧ config.epsilon = 1) {m n : ℕ}
    (hmn : m < n) (hn : n < 2 ^ 53) :
    .ofNat m + relation.slack config < .ofNat n + relation.slack config := by
  obtain ⟨k, hk, hslack⟩ : ∃ k ≤ 1, relation.slack config = .ofNat k := by
    rcases h with h | ⟨h, hone⟩
    · refine ⟨0, Nat.zero_le 1, ?_⟩
      simp only [List.mem_cons, List.not_mem_nil, or_false] at h
      rcases h with rfl | rfl | rfl <;> rfl
    · refine ⟨1, le_rfl, ?_⟩
      rcases List.mem_pair.1 h with rfl | rfl <;> rw [slack, hone] <;> rfl
  rw [hslack, Distance.ofNat_add_ofNat (by omega), Distance.ofNat_add_ofNat (by omega)]
  exact Distance.ofNat_lt_ofNat (by omega) (by omega)

/-- The branch distance of a relation between integers follows its violation: it does not fall where
the violation grows, and it grows strictly where nothing is rounded.  Whatever the integers are,
nothing wraps or overflows on the way. -/
theorem gradient (hv : config.IsValid) {relation : Relation} (hne : relation ≠ .ne)
    (a b t : Int64) :
    let distance (n : Int64) := (relation.outcome config (.int n) (.int t)).distance
    let holds (n : Int64) := relation.HoldsFor n.toInt t.toInt
    let violation (n : Int64) := relation.violation n.toInt t.toInt
    (holds a ∨ ¬ holds a ∧ ¬ holds b ∧ violation a ≤ violation b → distance a ≤ distance b) ∧
      (¬ holds b → holds a ∨ violation a < violation b →
        violation a < 2 ^ 53 → violation b < 2 ^ 53 →
        relation ∈ [eq, le, ge] ∨ relation ∈ [lt, gt] ∧ config.epsilon = 1 →
          distance a < distance b) ∧
      ∀ n : Int64,
        (n.toBitVec.signExtend 128 - t.toBitVec.signExtend 128).toInt = n.toInt - t.toInt ∧
          (ofInt (n.toInt - t.toInt)).isFinite = true ∧
          (relation.score config (ofInt (n.toInt - t.toInt))).isFinite = true ∧
          ∃ d, relation.outcome config (.int n) (.int t) = .known d ∧ d ≠ .infinite := by
  intro distance holds violation
  have hviolated {n : Int64} (h : ¬ holds n) :
      distance n = .ofNat (violation n) + relation.slack config :=
    distance_of_violated hv hne h
  have hsatisfied {n : Int64} (h : holds n) : distance n = .zero := distance_of_holdsFor hv h
  refine ⟨?_, fun hb h ha53 hb53 hexact => ?_, fun n => ?_⟩
  · rintro (ha | ⟨ha, hb, hle⟩)
    · rw [hsatisfied ha]
      exact Distance.zero_le _
    · rw [hviolated ha, hviolated hb]
      exact Distance.add_le_add (Distance.ofNat_mono hle) le_rfl
  · by_cases ha : holds a
    · rw [hsatisfied ha]
      exact (Distance.zero_le _).lt_of_ne (distance_ne_zero hv hb).symm
    · have hlt := h.resolve_left ha
      rw [hviolated ha, hviolated hb]
      exact ofNat_add_slack_lt hexact hlt hb53
  · have hn := natAbs_sub_le n t
    refine ⟨toInt_signExtend_sub n t, isFinite_ofInt hn, isFinite_score hv relation hn, _,
      outcome_int_eq relation n t, ?_⟩
    have hsign := sign?_score hv relation (sign?_ofInt (n.toInt - t.toInt))
    exact Distance.ofFloat_ne_infinite hsign

/-- A strict relation at its boundary, at the greatest exact violation and at the greatest of
all. -/
theorem gradient_least :
    let t := Int64.minValue
    let b : Int64 := t + 9007199254740991
    let distance (n : Int64) := (lt.outcome {} (.int n) (.int t)).distance
    ({} : Config).IsValid ∧ lt ≠ ne ∧ ¬ lt.HoldsFor b.toInt t.toInt ∧
      lt.violation t.toInt t.toInt < lt.violation b.toInt t.toInt ∧
      lt.violation b.toInt t.toInt < 2 ^ 53 ∧ distance t < distance b ∧
      lt.violation b.toInt t.toInt ≤ lt.violation Int64.maxValue.toInt t.toInt ∧
      distance b ≤ distance .maxValue := by
  intro t b distance
  have hv := Config.isValid_default
  have hne : lt ≠ ne := by decide
  have hb : ¬ lt.HoldsFor b.toInt t.toInt := by decide
  have hmax : ¬ lt.HoldsFor Int64.maxValue.toInt t.toInt := by decide
  have hlt : lt.violation t.toInt t.toInt < lt.violation b.toInt t.toInt := by decide
  have hexact : lt.violation b.toInt t.toInt < 2 ^ 53 := by decide
  have hle : lt.violation b.toInt t.toInt ≤ lt.violation Int64.maxValue.toInt t.toInt := by decide
  have hstrict := (gradient hv hne t b t).2.1 hb (.inr hlt) (hlt.trans hexact) hexact
    (.inr ⟨by decide, rfl⟩)
  have hweak := (gradient hv hne b .maxValue t).1 (.inr ⟨hb, hmax, hle⟩)
  exact ⟨hv, hne, hb, hlt, hexact, hstrict, hle, hweak⟩

end Relation

end BranchDistance
