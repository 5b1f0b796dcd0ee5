import BranchDistance.Metrics
import Mathlib

/-!
# Sums of events

A counter of new counters is the exact sum of what the events tell, as long as this is a count, and
else the greatest count (`Counters.IsField.recordAll`).
-/

namespace BranchDistance

theorem addCounts_eq (a b : Nat) : addCounts a b = min countMax (a + b) := rfl

namespace Counters

/-- One of the counters: it adds up on its own. -/
structure IsField (field : Counters → Nat) : Prop where
  zero : field {} = 0
  add : ∀ a b, field (a.add b) = addCounts (field a) (field b)

theorem isField_calculations : IsField calculations := ⟨rfl, fun _ _ => rfl⟩

theorem isField_rowsEvaluated : IsField rowsEvaluated := ⟨rfl, fun _ _ => rfl⟩

theorem isField_cacheHits : IsField cacheHits := ⟨rfl, fun _ _ => rfl⟩

theorem isField_cacheMisses : IsField cacheMisses := ⟨rfl, fun _ _ => rfl⟩

theorem isField_failures : IsField failures := ⟨rfl, fun _ _ => rfl⟩

theorem isField_timeouts : IsField timeouts := ⟨rfl, fun _ _ => rfl⟩

/-- The exact sum of what some events add to a counter. -/
def total (field : Counters → Nat) (events : List Event) : Nat :=
  (events.map fun e => field (ofEvent e)).sum

@[simp] theorem total_nil (field : Counters → Nat) : total field [] = 0 := rfl

@[simp] theorem total_cons (field : Counters → Nat) (e : Event) (events : List Event) :
    total field (e :: events) = field (ofEvent e) + total field events := by
  simp [total]

@[simp] theorem total_append (field : Counters → Nat) (events later : List Event) :
    total field (events ++ later) = total field events + total field later := by
  simp [total]

/-- A counter that adds nothing for some events. -/
theorem total_eq_zero {field : Counters → Nat} {events : List Event}
    (h : ∀ e ∈ events, field (ofEvent e) = 0) : total field events = 0 := by
  induction events with
  | nil => rfl
  | cons e events ih =>
    obtain ⟨he, hevents⟩ := List.forall_mem_cons.1 h
    rw [total_cons, he, ih hevents]

/-- Every timeout is a failure. -/
theorem total_timeouts_le (events : List Event) :
    total timeouts events ≤ total failures events := by
  induction events with
  | nil => exact Nat.le_refl _
  | cons e events ih =>
    have he : (ofEvent e).timeouts ≤ (ofEvent e).failures := by
      rcases e with _ | _ | (_ | _ | _) | _ | kind
      case failed => by_cases h : kind = .timeout <;> simp [ofEvent, h]
      all_goals exact Nat.le_refl _
    rw [total_cons, total_cons]
    omega

variable {field : Counters → Nat}

/-- A counter goes on from a sum in the same way whether the sum has been cut off or not. -/
theorem IsField.recordAll_of_eq (h : IsField field) (events : List Event) {c : Counters} {n : Nat}
    (hc : field c = min countMax n) :
    field (c.recordAll events) = min countMax (n + total field events) := by
  induction events generalizing c n with
  | nil => exact hc
  | cons e events ih =>
    have hrecord : field (c.record e) = min countMax (n + field (ofEvent e)) := by
      rw [record, h.add, addCounts_eq, hc]
      omega
    rw [total_cons, ← Nat.add_assoc]
    exact ih hrecord

/-- New counters after some events. -/
theorem IsField.recordAll (h : IsField field) (events : List Event) :
    field (({} : Counters).recordAll events) = min countMax (total field events) := by
  have hzero : field {} = min countMax 0 := h.zero.trans (Nat.min_zero countMax).symm
  rw [h.recordAll_of_eq events hzero, Nat.zero_add]

end Counters

end BranchDistance
