import BranchDistance.Proofs.Binary64.Quotient
import BranchDistance.Proofs.Metrics

/-!
# Counters that have reached the greatest count

Counters are recorded into and set back in any order.  Since they were last set back every counter
is the exact sum of what the events tell, or the greatest count if the sum is beyond
(`Counters.saturated_sums`): what one cut-off addition loses, no later one misses
(`Counters.IsField.recordAll`).  The part of the hits in the lookups stays between zero and one also
where both have been cut off, since a number that is not greater is rounded to one that is not
greater, and so is a quotient that is not beyond one.
-/

namespace BranchDistance

open Binary64

/-- What is done with counters. -/
inductive CounterStep where
  | record (event : Event)
  /-- All counters are set to zero. -/
  | reset

namespace Counters

/-- The counters after one more step. -/
def step (counters : Counters) : CounterStep → Counters
  | .record event => counters.record event
  | .reset => {}

/-- The counters after several more steps. -/
def run (counters : Counters) (steps : List CounterStep) : Counters := steps.foldl step counters

/-- The events that were recorded since counters were last set back, after one more step. -/
def recentStep (events : List Event) : CounterStep → List Event
  | .record event => events ++ [event]
  | .reset => []

/-- The events that were recorded since counters were last set back, or from the beginning. -/
def recent (steps : List CounterStep) : List Event := steps.foldl recentStep []

/-- The exact sums of some events. -/
def tally (events : List Event) : Counters where
  calculations := events.countP fun | .calculated _ => true | _ => false
  rowsEvaluated := (events.map fun | .calculated rows => rows | _ => 0).sum
  cacheHits := events.count .cacheHit
  cacheMisses := events.count .cacheMiss
  probeQueries := events.count (.query .probe)
  subqueries := events.count (.query .subselect) + events.count (.query .exists)
  failures := events.countP fun | .failed _ => true | _ => false
  timeouts := events.count (.failed .timeout)

/-- All counters. -/
def fields : List (Counters → ℕ) :=
  [calculations, rowsEvaluated, cacheHits, cacheMisses, probeQueries, subqueries, failures,
    timeouts]

/-! ### Sums -/

/-- What was recorded before counters were set back is forgotten. -/
theorem run_eq_recordAll (steps : List CounterStep) :
    run {} steps = recordAll {} (recent steps) := by
  -- from the last step, as a reset forgets the steps before it
  induction steps using List.reverseRecOn with
  | nil => rfl
  | append_singleton steps s ih =>
    have hrun : run {} (steps ++ [s]) = (run {} steps).step s := List.foldl_concat ..
    have hrecent : recent (steps ++ [s]) = recentStep (recent steps) s := List.foldl_concat ..
    rw [hrun, hrecent, ih]
    cases s with
    | record event => exact (List.foldl_concat record {} event (recent steps)).symm
    | reset => rfl

theorem isField_of_mem {field : Counters → ℕ} (h : field ∈ fields) : IsField field := by
  simp only [fields, List.mem_cons, List.not_mem_nil, or_false] at h
  rcases h with rfl | rfl | rfl | rfl | rfl | rfl | rfl | rfl <;> exact ⟨rfl, fun _ _ => rfl⟩

/-- One more event adds to the exact sums what it tells. -/
theorem tally_cons {field : Counters → ℕ} (h : field ∈ fields) (e : Event) (events : List Event) :
    field (tally (e :: events)) = field (ofEvent e) + field (tally events) := by
  simp only [fields, List.mem_cons, List.not_mem_nil, or_false] at h
  rcases h with rfl | rfl | rfl | rfl | rfl | rfl | rfl | rfl <;>
    rcases e with _ | _ | (_ | _ | _) | rows | kind <;>
    simp [tally, ofEvent]
  case inr.inr.inr.inr.inr.inr.inr.failed =>
    by_cases hk : kind = .timeout <;> simp [hk, Nat.add_comm]
  all_goals omega

theorem total_eq_tally {field : Counters → ℕ} (h : field ∈ fields) (events : List Event) :
    total field events = field (tally events) := by
  induction events with
  | nil =>
    simp only [fields, List.mem_cons, List.not_mem_nil, or_false] at h
    rcases h with rfl | rfl | rfl | rfl | rfl | rfl | rfl | rfl <;> rfl
  | cons e events ih => rw [total_cons, ih, tally_cons h]

/-- New counters after some events are their exact sums, each cut off at the greatest count. -/
theorem recordAll_eq_tally {field : Counters → ℕ} (h : field ∈ fields) (events : List Event) :
    field (recordAll {} events) = min countMax (field (tally events)) := by
  rw [(isField_of_mem h).recordAll, total_eq_tally h]

theorem ext_fields {c d : Counters} (h : ∀ field ∈ fields, field c = field d) : c = d := by
  simp only [fields, List.forall_mem_cons] at h
  obtain ⟨h₁, h₂, h₃, h₄, h₅, h₆, h₇, h₈, -⟩ := h
  cases c
  cases d
  simp_all

/-- The exact sums do not depend on the order of the events. -/
theorem tally_perm {events events' : List Event} (h : events.Perm events') :
    tally events = tally events' := by
  simp only [tally, h.countP_eq, h.count_eq, (h.map _).sum_eq]

theorem recordAll_perm {events events' : List Event} (h : events.Perm events') :
    recordAll {} events = recordAll {} events' :=
  ext_fields fun field hfield => by
    rw [recordAll_eq_tally hfield, recordAll_eq_tally hfield, tally_perm h]

/-! ### The part of the hits -/

theorem le_addCounts {a b : ℕ} (h : a ≤ countMax) : a ≤ addCounts a b := by
  rw [addCounts_eq]
  omega

theorem hitRatio?_eq_none_iff {c : Counters} :
    c.hitRatio? = none ↔ c.cacheHits = 0 ∧ c.cacheMisses = 0 := by
  have hmax : 0 < countMax := by decide
  have hzero : addCounts c.cacheHits c.cacheMisses = 0 ↔ c.cacheHits = 0 ∧ c.cacheMisses = 0 := by
    rw [addCounts_eq]
    omega
  rw [← hzero, hitRatio?]
  split <;> simp_all

theorem mem_unit_of_hitRatio? {c : Counters} {r : Float} (hhits : c.cacheHits ≤ countMax)
    (h : c.hitRatio? = some r) : 0 ≤ r ∧ r ≤ 1 := by
  obtain ⟨lookups, hlookups⟩ : ∃ n, addCounts c.cacheHits c.cacheMisses = n := ⟨_, rfl⟩
  have hle : c.cacheHits ≤ lookups := hlookups ▸ le_addCounts hhits
  have hmax : lookups ≤ 2 ^ 64 := by
    rw [← hlookups, addCounts_eq]
    exact (min_le_left _ _).trans (by decide)
  rw [hitRatio?, hlookups] at h
  split at h
  · cases h
  · next hne =>
    rw [← Option.some.inj h]
    have hpos : sign? (ofInt lookups) = some 1 := by
      rw [sign?_ofInt, sign_pos (by omega)]
    exact div_mem_unit (sign?_ofInt _) (sign_natCast_nonneg _) hpos (isFinite_ofInt hmax)
      (units_ofInt_le hle)

/-! ### Any steps -/

/-- Since they were last set back, every counter is the exact sum of what the events tell, or the
greatest count if the sum is beyond, in whatever order the events come.  Timeouts are never more
than failures.  There is a part of hits exactly if there was a lookup, and it lies between zero and
one. -/
theorem saturated_sums (steps : List CounterStep) :
    let counters := run {} steps
    let events := recent steps
    (∀ field ∈ fields, field counters = min countMax (field (tally events))) ∧
      (∀ steps', (recent steps').Perm events → run {} steps' = counters) ∧
      counters.timeouts ≤ counters.failures ∧
      (counters.hitRatio? = none ↔ Event.cacheHit ∉ events ∧ Event.cacheMiss ∉ events) ∧
      ∀ r, counters.hitRatio? = some r → 0 ≤ r ∧ r ≤ 1 := by
  intro counters events
  have hcounters : counters = recordAll {} events := run_eq_recordAll steps
  have hfield {field : Counters → ℕ} (h : field ∈ fields) :
      field counters = min countMax (field (tally events)) := by
    rw [hcounters, recordAll_eq_tally h]
  have hhits : counters.cacheHits = min countMax (events.count .cacheHit) :=
    hfield (by simp [fields])
  have hmisses : counters.cacheMisses = min countMax (events.count .cacheMiss) :=
    hfield (by simp [fields])
  refine ⟨fun field h => hfield h, fun steps' h => ?_, ?_, ?_, fun r => ?_⟩
  · rw [hcounters, run_eq_recordAll, recordAll_perm h]
  · rw [hcounters, isField_timeouts.recordAll, isField_failures.recordAll]
    exact min_le_min_left _ (total_timeouts_le events)
  · have hmax : 0 < countMax := by decide
    rw [hitRatio?_eq_none_iff, hhits, hmisses, ← List.count_eq_zero, ← List.count_eq_zero]
    omega
  · exact mem_unit_of_hitRatio? (hhits.trans_le (min_le_left _ _))

/-- Rows beyond the greatest count, and lookups before and after counters are set back. -/
theorem saturated_sums_rows :
    let steps : List CounterStep :=
      [.record .cacheMiss, .reset, .record (.calculated countMax), .record .cacheHit,
        .record (.calculated 3)]
    let steps' : List CounterStep :=
      [.record (.calculated 3), .record .cacheHit, .record (.calculated countMax)]
    let counters := run {} steps
    rowsEvaluated ∈ fields ∧ counters.rowsEvaluated = countMax ∧
      (recent steps').Perm (recent steps) ∧ run {} steps' = counters ∧
      counters.hitRatio? = some (ofInt 1 / ofInt 1) ∧
      0 ≤ ofInt 1 / ofInt 1 ∧ ofInt 1 / ofInt 1 ≤ 1 := by
  intro steps steps' counters
  have hfield : rowsEvaluated ∈ fields := by simp [fields]
  have hperm : (recent steps').Perm (recent steps) := List.reverse_perm (recent steps)
  have hratio : counters.hitRatio? = some (ofInt 1 / ofInt 1) := rfl
  obtain ⟨hsums, horder, -, -, hmem⟩ := saturated_sums steps
  exact ⟨hfield, hsums _ hfield, hperm, horder _ hperm, hratio, hmem _ hratio⟩

end Counters

end BranchDistance
