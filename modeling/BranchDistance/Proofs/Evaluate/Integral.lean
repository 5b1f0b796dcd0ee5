import BranchDistance.Proofs.Evaluate.Calculus

/-!
# Conditions on integers

A condition whose operands are integers, or sums, differences and products of integers that all fit
into 64 binary digits, is true or false in ordinary logic.  Its distance is finite, zero if it is
true and positive if it is false (`integral_distance`): no gap between integers is rounded to zero,
however large they are, and no penalty is lost in sums and minima.

* `Operand.exact` is the exact value of such an operand, `Operand.IsIntegral` says which they are;
* `Condition.Holds` is the truth of a condition over the exact values, `Condition.IsIntegral` says
  which conditions are meant.
-/

namespace BranchDistance

open Binary64

/-! ### Exact values -/

/-- The exact result of a sum, difference or product. -/
def Operation.exact : Operation → ℤ → ℤ → ℤ
  | .add, a, b => a + b
  | .subtract, a, b => a - b
  | .multiply, a, b => a * b
  | .divide, _, _ => 0
  | .modulo, _, _ => 0

/-- Whether an operation is one of the three that keep to the integers. -/
def Operation.isExact : Operation → Bool
  | .add => true
  | .subtract => true
  | .multiply => true
  | .divide => false
  | .modulo => false

/-- The exact value of an integral operand. -/
def Operand.exact (scope : Scope) : Operand → ℤ
  | .literal (.int n) => n.toInt
  | .literal _ => 0
  | .column c =>
    match scope.get? c with
    | some (.int n) => n.toInt
    | _ => 0
  | .arithmetic op left right => op.exact (left.exact scope) (right.exact scope)

/-- Integer literals, columns that hold integers, and sums, differences and products of such, when
all exact results fit into 64 binary digits. -/
def Operand.IsIntegral (scope : Scope) : Operand → Prop
  | .literal v => ∃ n, v = .int n
  | .column c => ∃ n, scope.get? c = some (.int n)
  | .arithmetic op left right =>
    op.isExact = true ∧ left.IsIntegral scope ∧ right.IsIntegral scope ∧
      Int64.minValue.toInt ≤ op.exact (left.exact scope) (right.exact scope) ∧
      op.exact (left.exact scope) (right.exact scope) ≤ Int64.maxValue.toInt

theorem Operation.apply_int {op : Operation} (h : op.isExact = true) {a b : Int64}
    (hlow : Int64.minValue.toInt ≤ op.exact a.toInt b.toInt)
    (hhigh : op.exact a.toInt b.toInt ≤ Int64.maxValue.toInt) :
    op.apply (.int a) (.int b) = .ok (.int (Int64.ofInt (op.exact a.toInt b.toInt))) := by
  have hfit : Value.ofInt? (op.exact a.toInt b.toInt) =
      some (.int (Int64.ofInt (op.exact a.toInt b.toInt))) := if_pos ⟨hlow, hhigh⟩
  have hop : op.onIntegers a b = Value.ofInt? (op.exact a.toInt b.toInt) := by
    cases op <;> first | rfl | cases h
  unfold apply
  dsimp only
  rw [hop, hfit]
  rfl

/-- An integral operand is evaluated to its exact value. -/
theorem Operand.value?_of_isIntegral {scope : Scope} :
    {operand : Operand} → operand.IsIntegral scope →
      ∃ n, operand.value? scope = .ok (.int n) ∧ n.toInt = operand.exact scope
  | .literal v, ⟨n, hn⟩ => ⟨n, by rw [hn]; rfl, by rw [hn]; rfl⟩
  | .column c, ⟨n, hn⟩ => ⟨n, by rw [value?, hn], by rw [exact, hn]⟩
  | .arithmetic op left right, ⟨hop, hl, hr, hlow, hhigh⟩ => by
    obtain ⟨a, ha, ha'⟩ := value?_of_isIntegral hl
    obtain ⟨b, hb, hb'⟩ := value?_of_isIntegral hr
    rw [← ha', ← hb'] at hlow hhigh
    refine ⟨Int64.ofInt (op.exact a.toInt b.toInt), ?_, ?_⟩
    · rw [value?, ha, hb]
      exact Operation.apply_int hop hlow hhigh
    · rw [Int64.toInt_minValue] at hlow
      rw [Int64.toInt_maxValue] at hhigh
      rw [Int64.toInt_ofInt_of_le hlow (by omega), exact, ha', hb']

/-! ### Truth -/

/-- Whether a relation holds between two integers. -/
def Relation.HoldsFor : Relation → ℤ → ℤ → Prop
  | .eq, a, b => a = b
  | .ne, a, b => a ≠ b
  | .lt, a, b => a < b
  | .le, a, b => a ≤ b
  | .gt, a, b => a > b
  | .ge, a, b => a ≥ b

theorem Relation.holds_sign_iff (relation : Relation) (a b : ℤ) :
    relation.holds (SignType.sign (a - b)) = true ↔ relation.HoldsFor a b := by
  rcases lt_trichotomy (a - b) 0 with h | h | h
  · rw [sign_neg h]
    cases relation <;> simp [holds, HoldsFor] <;> omega
  · rw [h, sign_zero]
    cases relation <;> simp [holds, HoldsFor] <;> omega
  · rw [sign_pos h]
    cases relation <;> simp [holds, HoldsFor] <;> omega

namespace Condition

mutual

/-- The conditions on integral operands, with a part in every disjunction and a candidate in every
list. -/
def IsIntegral (scope : Scope) : Condition → Prop
  | compare _ left right => left.IsIntegral scope ∧ right.IsIntegral scope
  | and children => AllIntegral scope children
  | or children => children ≠ [] ∧ AllIntegral scope children
  | not inner => inner.IsIntegral scope
  | isNull operand _ => operand.IsIntegral scope
  | between operand low high =>
    operand.IsIntegral scope ∧ low.IsIntegral scope ∧ high.IsIntegral scope
  | inList operand candidates =>
    operand.IsIntegral scope ∧ candidates ≠ [] ∧ ∀ c ∈ candidates, c.IsIntegral scope
  | inQuery .. => False
  | like .. => False
  | .exists _ => False

/-- Several conditions on integral operands. -/
def AllIntegral (scope : Scope) : List Condition → Prop
  | [] => True
  | child :: rest => child.IsIntegral scope ∧ AllIntegral scope rest

end

mutual

/-- The truth of a condition on integral operands, in ordinary logic over their exact values. -/
def Holds (scope : Scope) : Condition → Prop
  | compare relation left right => relation.HoldsFor (left.exact scope) (right.exact scope)
  | and children => AllHold scope children
  | or children => AnyHolds scope children
  | not inner => ¬ inner.Holds scope
  | isNull _ negated => negated = true
  | between operand low high =>
    low.exact scope ≤ operand.exact scope ∧ operand.exact scope ≤ high.exact scope
  | inList operand candidates => ∃ c ∈ candidates, operand.exact scope = c.exact scope
  | inQuery .. => False
  | like .. => False
  | .exists _ => False

/-- All of several conditions are true. -/
def AllHold (scope : Scope) : List Condition → Prop
  | [] => True
  | child :: rest => child.Holds scope ∧ AllHold scope rest

/-- One of several conditions is true. -/
def AnyHolds (scope : Scope) : List Condition → Prop
  | [] => False
  | child :: rest => child.Holds scope ∨ AnyHolds scope rest

end

end Condition

/-! ### Grades that decide -/

namespace Grade

/-- The grade says whether a proposition is true. -/
def Decides (g : Grade) (P : Prop) : Prop := (g = .satisfied ∧ P) ∨ (g = .failed ∧ ¬ P)

theorem Decides.congr {g : Grade} {P Q : Prop} (h : g.Decides P) (hPQ : P ↔ Q) : g.Decides Q := by
  rwa [Decides, ← hPQ]

theorem Decides.of_ite {b : Bool} {P : Prop} (h : b = true ↔ P) :
    Decides (if b then .satisfied else .failed) P := by
  cases b with
  | true => exact .inl ⟨rfl, h.1 rfl⟩
  | false => exact .inr ⟨rfl, fun hP => absurd (h.2 hP) (by decide)⟩

theorem Decides.eq_satisfied_iff {g : Grade} {P : Prop} (h : g.Decides P) :
    g = .satisfied ↔ P := by
  rcases h with ⟨rfl, hP⟩ | ⟨rfl, hP⟩
  · exact iff_of_true rfl hP
  · exact iff_of_false (by decide) hP

theorem Decides.max {g g' : Grade} {P Q : Prop} (h : g.Decides P) (h' : g'.Decides Q) :
    (g ⊔ g').Decides (P ∧ Q) := by
  rcases h with ⟨rfl, hP⟩ | ⟨rfl, hP⟩ <;> rcases h' with ⟨rfl, hQ⟩ | ⟨rfl, hQ⟩
  · exact .inl ⟨rfl, hP, hQ⟩
  all_goals exact .inr ⟨rfl, by tauto⟩

theorem Decides.min {g g' : Grade} {P Q : Prop} (h : g.Decides P) (h' : g'.Decides Q) :
    (g ⊓ g').Decides (P ∨ Q) := by
  rcases h with ⟨rfl, hP⟩ | ⟨rfl, hP⟩ <;> rcases h' with ⟨rfl, hQ⟩ | ⟨rfl, hQ⟩
  case inr.inr => exact .inr ⟨rfl, by tauto⟩
  all_goals exact .inl ⟨rfl, by tauto⟩

theorem Decides.negate {g : Grade} {P : Prop} (h : g.Decides P) : g.negate.Decides (¬ P) := by
  rcases h with ⟨rfl, hP⟩ | ⟨rfl, hP⟩
  · exact .inr ⟨rfl, not_not.2 hP⟩
  · exact .inl ⟨rfl, hP⟩

theorem Decides.foldl_min {ι : Type} {f : ι → Grade} {P : ι → Prop} {l : List ι}
    (h : ∀ i ∈ l, (f i).Decides (P i)) {g : Grade} {Q : Prop} (hg : g.Decides Q) :
    ((l.map f).foldl (· ⊓ ·) g).Decides (Q ∨ ∃ i ∈ l, P i) := by
  induction l generalizing g Q with
  | nil => exact hg.congr (by simp)
  | cons i l ih =>
    obtain ⟨hi, hl⟩ := List.forall_mem_cons.1 h
    exact (ih hl (hg.min hi)).congr (by rw [List.exists_mem_cons_iff, or_assoc])

/-- The least grade of some parts says whether one of them is true. -/
theorem Decides.min_map {ι : Type} {f : ι → Grade} {P : ι → Prop} {l : List ι} (hne : l ≠ [])
    (h : ∀ i ∈ l, (f i).Decides (P i)) :
    ((l.map f).foldl (· ⊓ ·) ⊤).Decides (∃ i ∈ l, P i) := by
  obtain ⟨i, l, rfl⟩ := List.exists_cons_of_ne_nil hne
  obtain ⟨hi, hl⟩ := List.forall_mem_cons.1 h
  rw [List.map_cons, List.foldl_cons, top_inf_eq]
  exact (foldl_min hl hi).congr (by rw [List.exists_mem_cons_iff])

/-- The grade of a conjunction says whether all of its parts are true. -/
theorem Decides.all_map {ι : Type} {f : ι → Grade} {P : ι → Prop} {l : List ι}
    (h : ∀ i ∈ l, (f i).Decides (P i)) : (Grade.all (l.map f)).Decides (∀ i ∈ l, P i) := by
  induction l with
  | nil => exact .inl ⟨rfl, by simp⟩
  | cons i l ih =>
    obtain ⟨hi, hl⟩ := List.forall_mem_cons.1 h
    rw [List.map_cons, all_cons]
    exact (hi.max (ih hl)).congr (by rw [List.forall_mem_cons])

end Grade

namespace Condition

variable {scope : Scope}

theorem allHold_iff (cs : List Condition) : AllHold scope cs ↔ ∀ c ∈ cs, c.Holds scope := by
  induction cs with
  | nil => simp [AllHold]
  | cons child rest ih => rw [AllHold, ih, List.forall_mem_cons]

theorem anyHolds_iff (cs : List Condition) : AnyHolds scope cs ↔ ∃ c ∈ cs, c.Holds scope := by
  induction cs with
  | nil => simp [AnyHolds]
  | cons child rest ih => rw [AnyHolds, ih, List.exists_mem_cons_iff]

mutual

theorem queries_of_isIntegral : (c : Condition) → c.IsIntegral scope → c.queries = []
  | compare .., _ | isNull .., _ | between .., _ | inList .., _ => rfl
  | and children, h => queriesOfAll_of_allIntegral children h
  | or children, ⟨_, h⟩ => queriesOfAll_of_allIntegral children h
  | not inner, h => queries_of_isIntegral inner h

theorem queriesOfAll_of_allIntegral :
    (cs : List Condition) → AllIntegral scope cs → queriesOfAll cs = []
  | [], _ => rfl
  | child :: rest, ⟨h, hr⟩ => by
    rw [queriesOfAll, queries_of_isIntegral child h, queriesOfAll_of_allIntegral rest hr]
    rfl

end

end Condition

/-! ### Leaves -/

section Leaves

variable {config : Config} (hv : config.IsValid) {scope : Scope}

include hv

/-- A relation between integers says whether it holds: no gap but zero is rounded to zero. -/
theorem Relation.outcome_int (relation : Relation) (a b : Int64) :
    (relation.outcome config (.int a) (.int b)).grade.Decides
      (relation.HoldsFor a.toInt b.toInt) := by
  -- the gap is exact before it is rounded, and rounding keeps its sign
  have h := (relation.ofGap_of_sign? hv (sign?_ofInt (a.toInt - b.toInt))).2
  change (relation.ofGap config (ofInt (a.toInt - b.toInt))).grade.Decides _
  rw [h]
  exact .of_ite (relation.holds_sign_iff _ _)

namespace Leaf

theorem compare_integral (relation : Relation) {left right : Operand}
    (hl : left.IsIntegral scope) (hr : right.IsIntegral scope) :
    (compare config scope relation left right).grade.Decides
      (relation.HoldsFor (left.exact scope) (right.exact scope)) := by
  obtain ⟨a, ha, ha'⟩ := Operand.value?_of_isIntegral hl
  obtain ⟨b, hb, hb'⟩ := Operand.value?_of_isIntegral hr
  rw [compare, ha, hb, ← ha', ← hb']
  exact relation.outcome_int hv a b

theorem isNull_integral {operand : Operand} (h : operand.IsIntegral scope) (negated : Bool) :
    (isNull config scope operand negated).grade.Decides (negated = true) := by
  obtain ⟨n, hn, -⟩ := Operand.value?_of_isIntegral h
  rw [isNull, hn, Outcome.ofOperand, (Outcome.ofBool_of_isUsable hv.1 _).2]
  exact .of_ite (b := false != negated) (by cases negated <;> decide)

theorem against_integral (relation : Relation) (n : Int64) {other : Operand}
    (h : other.IsIntegral scope) :
    (against config scope relation (.int n) other).grade.Decides
      (relation.HoldsFor n.toInt (other.exact scope)) := by
  obtain ⟨m, hm, hm'⟩ := Operand.value?_of_isIntegral h
  rw [against, hm, ← hm']
  exact relation.outcome_int hv n m

theorem between_integral {operand low high : Operand} (h : operand.IsIntegral scope)
    (hl : low.IsIntegral scope) (hh : high.IsIntegral scope) :
    (between config scope operand low high).grade.Decides
      (low.exact scope ≤ operand.exact scope ∧ operand.exact scope ≤ high.exact scope) := by
  obtain ⟨n, hn, hn'⟩ := Operand.value?_of_isIntegral h
  rw [between, hn, Outcome.ofOperand, Outcome.grade_and, ← hn']
  exact (against_integral hv .ge n hl).max (against_integral hv .le n hh)

theorem inList_integral {operand : Operand} {candidates : List Operand}
    (h : operand.IsIntegral scope) (hne : candidates ≠ [])
    (hc : ∀ c ∈ candidates, c.IsIntegral scope) :
    (inList config scope operand candidates).grade.Decides
      (∃ c ∈ candidates, operand.exact scope = c.exact scope) := by
  obtain ⟨n, hn, hn'⟩ := Operand.value?_of_isIntegral h
  rw [inList, hn, Outcome.ofOperand, Outcome.grade_any, List.map_map, ← hn']
  exact .min_map hne fun c hmem => against_integral hv .eq n (hc c hmem)

end Leaf

end Leaves

/-! ### Conditions -/

namespace Setting

variable {setting : Setting} {scope : Scope}

mutual

/-- The meaning of a condition on integers says whether it is true. -/
theorem decides_meaning (hv : setting.config.IsValid) : (c : Condition) → c.IsIntegral scope →
    (setting.meaning scope c).grade.Decides (c.Holds scope)
  | .compare relation _ _, ⟨hl, hr⟩ => Leaf.compare_integral hv relation hl hr
  | .and children, h => by
    rw [grade_and, Condition.Holds, Condition.allHold_iff]
    exact .all_map (decides_meanings hv children h)
  | .or children, ⟨hne, h⟩ => by
    rw [meaning, Outcome.grade_any, meanings_eq_map, List.map_map, Condition.Holds,
      Condition.anyHolds_iff]
    exact .min_map hne (decides_meanings hv children h)
  | .not inner, h => by
    rw [meaning, Outcome.grade_negate hv.1, Condition.Holds]
    exact (decides_meaning hv inner h).negate
  | .isNull _ negated, h => Leaf.isNull_integral hv h negated
  | .between _ _ _, ⟨h, hl, hh⟩ => Leaf.between_integral hv h hl hh
  | .inList _ _, ⟨h, hne, hc⟩ => Leaf.inList_integral hv h hne hc

theorem decides_meanings (hv : setting.config.IsValid) : (cs : List Condition) →
    Condition.AllIntegral scope cs →
      ∀ c ∈ cs, (setting.meaning scope c).grade.Decides (c.Holds scope)
  | [], _ => by simp
  | child :: rest, ⟨h, hrest⟩ =>
    List.forall_mem_cons.2 ⟨decides_meaning hv child h, decides_meanings hv rest hrest⟩

end

/-- A condition on integers has a finite distance, which is zero if it is true and positive if it is
false. -/
theorem integral_distance (hv : setting.config.IsValid) {c : Condition} (hc : c.IsIntegral scope)
    {p : Progress} (hp : setting.deadline.isExpired p.elapsed = false) :
    let d := (setting.distance scope c p).1
    d.value.isFinite = true ∧ (d = .zero ↔ c.Holds scope) ∧ (0 < d.value ↔ ¬ c.Holds scope) := by
  intro d
  have hd : d = (setting.meaning scope c).distance := by
    change (setting.distance scope c p).1 = _
    rw [distance, run_outcome_of_queries hp c (Condition.queries_of_isIntegral c hc)]
  have hdecides := decides_meaning hv c hc
  have hzero : d = .zero ↔ c.Holds scope := by
    rw [hd, Outcome.distance_eq_zero_iff]
    exact hdecides.eq_satisfied_iff
  have hfinite : d ≠ .infinite := by
    rw [hd, Ne, Outcome.distance_eq_infinite_iff (isSound_meaning scope hv c)]
    rcases hdecides with ⟨h, -⟩ | ⟨h, -⟩ <;> rw [h] <;> decide
  exact ⟨Distance.isFinite_value_iff.2 hfinite, hzero, Distance.pos_iff.trans (not_congr hzero)⟩

/-- A disjunction whose first part fails by a gap of one between large integers. -/
theorem integral_distance_row :
    let scope : Scope := ⟨Row.empty.insert none "x" (.int 9007199254740993), .empty⟩
    let x : Operand := .column ⟨none, "x"⟩
    let c : Condition := .or [.compare .eq x (.literal (.int 9007199254740992)),
      .not (.between (.arithmetic .add x (.literal (.int 1))) x (.literal (.int (-1))))]
    c.IsIntegral scope ∧ ({ config := {} } : Setting).config.IsValid ∧
      ((({ config := {} } : Setting).distance scope c {}).1 = .zero ↔ c.Holds scope) := by
  intro scope x c
  have hx : x.IsIntegral scope := ⟨9007199254740993, by decide⟩
  have hc : c.IsIntegral scope :=
    ⟨by simp, ⟨hx, _, rfl⟩, ⟨⟨rfl, hx, ⟨1, rfl⟩, by decide, by decide⟩, hx, _, rfl⟩, trivial⟩
  have hv : ({ config := {} } : Setting).config.IsValid := Config.isValid_default
  exact ⟨hc, hv, (integral_distance hv hc rfl).2.1⟩

end Setting

end BranchDistance
