import BranchDistance.Proofs.Distance.Sum
import BranchDistance.Proofs.Evaluate.Calculus

/-!
# The laws of the connectives

How conjunction, disjunction and negation work together, whatever their parts are.

* Conjunctions and disjunctions are monotone: where no part of a tree of them is farther, the tree
  is not farther (`monotone_in_leaves`).  The parts may be evaluated over two rows, with two drivers
  and with two configurations.
* Negation turns the one into the other (`deMorgan`), as long as no part is invalid.  For
  conjunctions the distances are the same; for disjunctions only what is satisfied, since each of
  the negated parts costs a penalty of its own.
-/

namespace BranchDistance

namespace Condition

mutual

/-- The parts of a condition that are no conjunctions or disjunctions, from left to right.  A
negation counts as one part, so in a condition without negations they are all of its leaves. -/
def leaves : Condition → List Condition
  | and children => leavesOfAll children
  | or children => leavesOfAll children
  | c => [c]

/-- The leaves of several conditions, from left to right. -/
def leavesOfAll : List Condition → List Condition
  | [] => []
  | child :: rest => child.leaves ++ leavesOfAll rest

end

end Condition

namespace Setting

variable {setting setting' : Setting} {scope scope' : Scope}

/-! ### Evaluations that come to an end -/

/-- The evaluation of a condition is not given up. -/
def Completes (setting : Setting) (scope : Scope) (c : Condition) (p : Progress) : Prop :=
  ∃ o, ((setting.outcome scope c).run p).1 = .ok o

theorem eq_meaning_of_ok (hs : setting.IsSteady) {c : Condition} {p : Progress} {o : Outcome}
    (h : ((setting.outcome scope c).run p).1 = .ok o) : o = setting.meaning scope c := by
  have hsettles : setting.Settles (setting.outcome scope c) _ := settles_outcome hs c
  specialize hsettles p
  rwa [h] at hsettles

theorem Completes.distance_eq (hs : setting.IsSteady) {c : Condition} {p : Progress}
    (h : setting.Completes scope c p) :
    (setting.distance scope c p).1 = (setting.meaning scope c).distance := by
  obtain ⟨o, ho⟩ := h
  rw [← eq_meaning_of_ok hs ho, distance]
  generalize (setting.outcome scope c).run p = ran at ho
  obtain ⟨result, q⟩ := ran
  cases ho
  rfl

/-- Without a deadline every evaluation comes to an end. -/
theorem completes_of_unbounded (hs : setting.IsSteady) (hd : setting.deadline = .unbounded)
    (c : Condition) (p : Progress) : setting.Completes scope c p := by
  obtain ⟨q, hq⟩ := run_outcome hs scope hd c p
  exact ⟨_, congrArg Prod.fst hq⟩

/-! ### Distances and grades of the connectives -/

theorem distance_and (cs : List Condition) :
    (setting.meaning scope (.and cs)).distance =
      cs.foldl (fun d c => d + (setting.meaning scope c).distance) .zero := by
  rw [meaning, Outcome.distance_foldl_and, meanings_eq_map, List.map_map, List.foldl_map]
  rfl

theorem distance_or (cs : List Condition) :
    (setting.meaning scope (.or cs)).distance =
      cs.foldl (fun d c => d ⊓ (setting.meaning scope c).distance) .infinite := by
  rw [meaning, Outcome.distance_any, meanings_eq_map, List.map_map, List.foldl_map]
  rfl

theorem grade_not (hv : setting.config.IsValid) (c : Condition) :
    (setting.meaning scope (.not c)).grade = (setting.meaning scope c).grade.negate := by
  rw [meaning, Outcome.grade_negate hv.1]

/-- What is satisfied is one penalty away from its negation. -/
theorem distance_not_of_satisfied {c : Condition}
    (h : (setting.meaning scope c).grade = .satisfied) :
    (setting.meaning scope (.not c)).distance = .ofFloat setting.config.penalty := by
  rw [meaning, Outcome.negate_eq, h]
  rfl

/-- Unless a condition is invalid, its negation is satisfied exactly if it is not. -/
theorem distance_not_eq_zero_iff (hv : setting.config.IsValid) {c : Condition}
    (h : (setting.meaning scope c).grade ≠ .invalid) :
    (setting.meaning scope (.not c)).distance = .zero ↔
      (setting.meaning scope c).grade ≠ .satisfied := by
  rw [Outcome.distance_eq_zero_iff, grade_not hv, Grade.negate_eq_satisfied_iff h]

theorem distance_or_of_forall {cs : List Condition} (hne : cs ≠ []) {d : Distance}
    (h : ∀ c ∈ cs, (setting.meaning scope c).distance = d) :
    (setting.meaning scope (.or cs)).distance = d := by
  rw [meaning, Outcome.distance_any, meanings_eq_map, List.map_map]
  refine (Outcome.isLeast_foldl_min _ _).unique ⟨?_, ?_⟩
  · obtain ⟨c, hc⟩ := List.exists_mem_of_ne_nil cs hne
    exact .inr (List.mem_map.2 ⟨c, hc, h c hc⟩)
  · rintro _ (rfl | hd)
    · exact Distance.le_infinite d
    · obtain ⟨c, hc, rfl⟩ := List.mem_map.1 hd
      exact (h c hc).ge

/-! ### Monotonicity -/

/-- Folding distances keeps the order of each if the operation does. -/
theorem foldl_le_foldl {op : Distance → Distance → Distance}
    (hop : ∀ {a b c d : Distance}, a ≤ b → c ≤ d → op a c ≤ op b d)
    {f g : Condition → Distance} {cs : List Condition} (h : ∀ c ∈ cs, f c ≤ g c)
    {a b : Distance} (hab : a ≤ b) :
    cs.foldl (fun d c => op d (f c)) a ≤ cs.foldl (fun d c => op d (g c)) b := by
  induction cs generalizing a b with
  | nil => exact hab
  | cons c cs ih =>
    obtain ⟨hc, hcs⟩ := List.forall_mem_cons.1 h
    exact ih hcs (hop hab hc)

mutual

/-- A condition is not farther in one setting than in another if none of its leaves is. -/
theorem distance_meaning_le : (c : Condition) →
    (∀ leaf ∈ c.leaves,
      (setting.meaning scope leaf).distance ≤ (setting'.meaning scope' leaf).distance) →
    (setting.meaning scope c).distance ≤ (setting'.meaning scope' c).distance
  | .and children, h => by
    rw [distance_and, distance_and]
    exact foldl_le_foldl Distance.add_le_add (distance_meanings_le children h) le_rfl
  | .or children, h => by
    rw [distance_or, distance_or]
    exact foldl_le_foldl inf_le_inf (distance_meanings_le children h) le_rfl
  | .not _, h | .compare .., h | .isNull .., h | .between .., h | .inList .., h | .inQuery .., h
  | .like .., h | .exists _, h => h _ List.mem_cons_self

theorem distance_meanings_le : (cs : List Condition) →
    (∀ leaf ∈ Condition.leavesOfAll cs,
      (setting.meaning scope leaf).distance ≤ (setting'.meaning scope' leaf).distance) →
    ∀ c ∈ cs, (setting.meaning scope c).distance ≤ (setting'.meaning scope' c).distance
  | [], _ => by simp
  | child :: rest, h => by
    rw [Condition.leavesOfAll, List.forall_mem_append] at h
    exact List.forall_mem_cons.2 ⟨distance_meaning_le child h.1, distance_meanings_le rest h.2⟩

end

/-- A tree of conjunctions and disjunctions is not farther over one row, with one driver, than over
another with another if none of its leaves is. -/
theorem monotone_in_leaves (hs : setting.IsSteady) (hs' : setting'.IsSteady) (c : Condition)
    (start start' : Condition → Progress)
    (hc : ∀ part ∈ c :: c.leaves, setting.Completes scope part (start part))
    (hc' : ∀ part ∈ c :: c.leaves, setting'.Completes scope' part (start' part)) :
    let evaluate part := (setting.distance scope part (start part)).1
    let evaluate' part := (setting'.distance scope' part (start' part)).1
    (∀ leaf ∈ c.leaves, evaluate leaf ≤ evaluate' leaf) → evaluate c ≤ evaluate' c := by
  intro evaluate evaluate' h
  have heval : ∀ part ∈ c :: c.leaves,
      evaluate part = (setting.meaning scope part).distance :=
    fun part hpart => (hc part hpart).distance_eq hs
  have heval' : ∀ part ∈ c :: c.leaves,
      evaluate' part = (setting'.meaning scope' part).distance :=
    fun part hpart => (hc' part hpart).distance_eq hs'
  rw [heval c List.mem_cons_self, heval' c List.mem_cons_self]
  apply distance_meaning_le
  intro leaf hleaf
  rw [← heval leaf (List.mem_cons_of_mem c hleaf), ← heval' leaf (List.mem_cons_of_mem c hleaf)]
  exact h leaf hleaf

/-- Two rows and two drivers: one answers the subquery with a row and the other panics. -/
theorem monotone_in_leaves_rows :
    let x : Operand := .column ⟨none, "x"⟩
    let c : Condition :=
      .and [.compare .lt x (.literal (.int 3)), .or [.exists "SELECT 1", .isNull x false]]
    let setting : Setting := { config := {}, driver := some (.ofAnswers fun _ => .rows [⟨[]⟩]) }
    let setting' : Setting := { config := {}, driver := some (.ofAnswers fun _ => .panic) }
    let scope : Scope := ⟨⟨[⟨none, "x", .int 5⟩]⟩, .empty⟩
    let scope' : Scope := ⟨⟨[⟨none, "x", .int 7⟩]⟩, .empty⟩
    (∀ leaf ∈ c.leaves,
        (setting.distance scope leaf {}).1 ≤ (setting'.distance scope' leaf {}).1) ∧
      (setting.distance scope c {}).1 ≤ (setting'.distance scope' c {}).1 := by
  intro x c setting setting' scope scope'
  have hs : setting.IsSteady := isSteady_ofAnswers fun _ => rfl
  have hs' : setting'.IsSteady := isSteady_ofAnswers fun _ => rfl
  have hleaves : ∀ leaf ∈ c.leaves,
      (setting.distance scope leaf {}).1 ≤ (setting'.distance scope' leaf {}).1 := by
    decide +kernel
  exact ⟨hleaves, monotone_in_leaves hs hs' c (fun _ => {}) (fun _ => {})
    (fun part _ => completes_of_unbounded hs rfl part {})
    (fun part _ => completes_of_unbounded hs' rfl part {}) hleaves⟩

/-! ### Negated connectives -/

section

variable (hv : setting.config.IsValid) {cs : List Condition}
  (h : ∀ c ∈ cs, (setting.meaning scope c).grade ≠ .invalid)

include h

theorem grade_and_ne_invalid : (setting.meaning scope (.and cs)).grade ≠ .invalid := by
  rw [grade_and, Ne, Grade.all_eq_invalid_iff, List.mem_map]
  rintro ⟨c, hc, hinvalid⟩
  exact h c hc hinvalid

theorem grade_or_ne_invalid (hne : cs ≠ []) :
    (setting.meaning scope (.or cs)).grade ≠ .invalid := by
  obtain ⟨c, hc⟩ := List.exists_mem_of_ne_nil cs hne
  rw [grade_or, Ne, Grade.any_eq_invalid_iff, List.forall_mem_map]
  exact fun hinvalid => h c hc (hinvalid c hc)

include hv

/-- A negated conjunction is as far as the disjunction of the negations. -/
theorem distance_not_and (hne : cs ≠ []) :
    (setting.meaning scope (.not (.and cs))).distance =
      (setting.meaning scope (.or (cs.map .not))).distance := by
  by_cases hall : ∀ c ∈ cs, (setting.meaning scope c).grade = .satisfied
  · -- every negation is one penalty away, and so is the least of them
    have hand : (setting.meaning scope (.and cs)).grade = .satisfied := by
      rwa [grade_and, Grade.all_eq_satisfied_iff, List.forall_mem_map]
    rw [distance_not_of_satisfied hand]
    refine (distance_or_of_forall (by simpa using hne) ?_).symm
    rw [List.forall_mem_map]
    exact fun c hc => distance_not_of_satisfied (hall c hc)
  · -- a part that is not satisfied has a satisfied negation
    have hand : (setting.meaning scope (.and cs)).grade ≠ .satisfied := by
      rwa [Ne, grade_and, Grade.all_eq_satisfied_iff, List.forall_mem_map]
    rw [(distance_not_eq_zero_iff hv (grade_and_ne_invalid h)).2 hand, eq_comm,
      Outcome.distance_eq_zero_iff, grade_or, Grade.any_eq_satisfied_iff, List.map_map,
      List.mem_map]
    push Not at hall
    obtain ⟨c, hc, hgrade⟩ := hall
    refine ⟨c, hc, ?_⟩
    rw [Function.comp_apply, grade_not hv]
    exact (Grade.negate_eq_satisfied_iff (h c hc)).2 hgrade

/-- A negated disjunction is satisfied exactly if the conjunction of the negations is. -/
theorem distance_not_or_eq_zero_iff (hne : cs ≠ []) :
    (setting.meaning scope (.not (.or cs))).distance = .zero ↔
      (setting.meaning scope (.and (cs.map .not))).distance = .zero := by
  have hnot : ∀ c ∈ cs, (setting.meaning scope (.not c)).grade = .satisfied ↔
      (setting.meaning scope c).grade ≠ .satisfied := by
    intro c hc
    rw [grade_not hv, Grade.negate_eq_satisfied_iff (h c hc)]
  calc (setting.meaning scope (.not (.or cs))).distance = .zero
      ↔ (setting.meaning scope (.or cs)).grade ≠ .satisfied :=
        distance_not_eq_zero_iff hv (grade_or_ne_invalid h hne)
    _ ↔ ∀ c ∈ cs, (setting.meaning scope c).grade ≠ .satisfied := by
        rw [Ne, grade_or, Grade.any_eq_satisfied_iff, List.mem_map]
        push Not
        rfl
    _ ↔ ∀ c ∈ cs, (setting.meaning scope (.not c)).grade = .satisfied :=
        forall₂_congr fun c hc => (hnot c hc).symm
    _ ↔ (setting.meaning scope (.and (cs.map .not))).distance = .zero := by
        rw [Outcome.distance_eq_zero_iff, grade_and, Grade.all_eq_satisfied_iff, List.map_map,
          List.forall_mem_map]
        rfl

end

/-- Conditions of which none is invalid: their negated conjunction is as far as the disjunction of
their negations, and their negated disjunction is satisfied exactly if the conjunction of their
negations is. -/
theorem deMorgan (hs : setting.IsSteady) (hv : setting.config.IsValid) {cs : List Condition}
    (hne : cs ≠ []) (start : Condition → Progress)
    (h : ∀ c ∈ cs, ∃ o, ((setting.outcome scope c).run (start c)).1 = .ok o ∧ o ≠ .invalid)
    (hc : ∀ c ∈ [.not (.and cs), .or (cs.map .not), .not (.or cs), .and (cs.map .not)],
      setting.Completes scope c (start c)) :
    let evaluate c := (setting.distance scope c (start c)).1
    evaluate (.not (.and cs)) = evaluate (.or (cs.map .not)) ∧
      (evaluate (.not (.or cs)) = .zero ↔ evaluate (.and (cs.map .not)) = .zero) := by
  intro evaluate
  have hgrade : ∀ c ∈ cs, (setting.meaning scope c).grade ≠ .invalid := by
    intro c hmem
    obtain ⟨o, hrun, ho⟩ := h c hmem
    rw [← eq_meaning_of_ok hs hrun, Ne, Outcome.grade_eq_invalid_iff]
    exact ho
  simp only [List.forall_mem_cons] at hc
  obtain ⟨hnotAnd, horNot, hnotOr, handNot, -⟩ := hc
  refine ⟨?_, ?_⟩
  · show (setting.distance scope _ _).1 = (setting.distance scope _ _).1
    rw [hnotAnd.distance_eq hs, horNot.distance_eq hs]
    exact distance_not_and hv hgrade hne
  · show (setting.distance scope _ _).1 = _ ↔ (setting.distance scope _ _).1 = _
    rw [hnotOr.distance_eq hs, handNot.distance_eq hs]
    exact distance_not_or_eq_zero_iff hv hgrade hne

/-- A comparison that fails, a column that is absent and a subquery with a row. -/
theorem deMorgan_missing :
    let x : Operand := .column ⟨none, "x"⟩
    let y : Operand := .column ⟨none, "y"⟩
    let cs : List Condition :=
      [.compare .lt x (.literal (.int 3)), .compare .eq y x, .exists "SELECT 1"]
    let setting : Setting := { config := {}, driver := some (.ofAnswers fun _ => .rows [⟨[]⟩]) }
    let scope : Scope := ⟨⟨[⟨none, "x", .int 5⟩]⟩, .empty⟩
    let evaluate c := (setting.distance scope c {}).1
    (∀ c ∈ cs, ∃ o, ((setting.outcome scope c).run {}).1 = .ok o ∧ o ≠ .invalid) ∧
      evaluate (.not (.and cs)) = evaluate (.or (cs.map .not)) ∧
      (evaluate (.not (.or cs)) = .zero ↔ evaluate (.and (cs.map .not)) = .zero) := by
  intro x y cs setting scope evaluate
  have hs : setting.IsSteady := isSteady_ofAnswers fun _ => rfl
  have hmeaning : ∀ c ∈ cs, setting.meaning scope c ≠ .invalid := by
    decide +kernel
  have hvalid : ∀ c ∈ cs, ∃ o, ((setting.outcome scope c).run {}).1 = .ok o ∧ o ≠ .invalid := by
    intro c hc
    obtain ⟨q, hq⟩ := run_outcome hs scope rfl c {}
    exact ⟨_, congrArg Prod.fst hq, hmeaning c hc⟩
  exact ⟨hvalid, deMorgan hs Config.isValid_default (List.cons_ne_nil _ _) (fun _ => {}) hvalid
    fun c _ => completes_of_unbounded hs rfl c {}⟩

end Setting

end BranchDistance
