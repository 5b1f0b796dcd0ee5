import BranchDistance.Proofs.Calendar.Date
import BranchDistance.Proofs.Calendar.Spelling
import BranchDistance.Proofs.Evaluate.Coherence

/-!
# The order of time

The numbers of dates count the days from 1970-01-01, whichever months and leap years lie between.
So the numbers that are read from the spellings of instants lie on one axis, and texts that name
instants, or times of day, are compared in the order of time (`spellings_agree`).
-/

namespace BranchDistance

theorem Relation.distance_eq_zero_iff_of_integers {config : Config} (hv : config.IsValid)
    (relation : Relation) {s t : String} {m n : ℤ} (h : Matched.ofTexts s t = .integers m n) :
    (relation.outcome config (.text s) (.text t)).distance = .zero ↔ relation.HoldsFor m n := by
  have hmatched : Matched.ofValues? (.text s) (.text t) = some (.integers m n) := congrArg some h
  have hdecides := relation.decides_of_gap? hv hmatched rfl (Binary64.sign?_ofInt (m - n))
  rw [Outcome.distance_eq_zero_iff]
  exact (hdecides.congr (relation.holds_sign_iff m n)).eq_satisfied_iff

namespace Calendar

open Text

/-- The spellings of instants and of times of day agree.  The numbers of dates count the days from
1970-01-01, in the order of the calendar; each spelling is read as the instant that it spells, and
each time of day as the milliseconds since midnight; and a relation between two instants, or two
times of day, is zero exactly if it holds in the order of time. -/
theorem spellings_agree {config : Config} (hv : config.IsValid) :
    (Date.epoch.dayNumber = 0 ∧
        (∀ (d e : Date) (n : ℕ), e.dayNumber = d.dayNumber + n ↔ Date.next^[n] d = e) ∧
        ∀ d e : Date, d.dayNumber < e.dayNumber ↔ d.IsBefore e) ∧
      (∀ (d : Date) (w : Spelling) (text : List Char), d.year ≤ 9999 →
        IsFramed (w.text d) text → instantMillis? text = some (w.instant d)) ∧
      (∀ (c : Clock) (text : List Char), IsFramed c.text text →
        timeMillis? text = some c.millis) ∧
      ∀ (relation : Relation) (s t : String),
        let distance := (relation.outcome config (.text s) (.text t)).distance
        (∀ (d e : Date) (w v : Spelling), d.year ≤ 9999 → e.year ≤ 9999 →
            IsFramed (w.text d) s.toList → IsFramed (v.text e) t.toList →
            (distance = .zero ↔ relation.HoldsFor (w.instant d) (v.instant e))) ∧
          ∀ a b : Clock, IsFramed a.text s.toList → IsFramed b.text t.toList →
            (distance = .zero ↔ relation.HoldsFor a.millis b.millis) := by
  refine ⟨⟨Date.dayNumber_epoch, fun d e n => Date.dayNumber_eq_add_iff,
      fun d e => Date.dayNumber_lt_iff⟩,
    fun d w text h hframed => instantMillis?_of_isFramed h hframed,
    fun c text hframed => timeMillis?_of_isFramed hframed, fun relation s t => ⟨?_, ?_⟩⟩
  · intro d e w v hd he hs ht
    refine Relation.distance_eq_zero_iff_of_integers hv relation ?_
    rw [Matched.ofTexts, instantMillis?_of_isFramed hd hs, instantMillis?_of_isFramed he ht]
  · intro a b hs ht
    refine Relation.distance_eq_zero_iff_of_integers hv relation ?_
    rw [Matched.ofTexts, instantMillis?_clock hs, timeMillis?_of_isFramed hs,
      timeMillis?_of_isFramed ht]

/-- A leap day before 1970 with an offset, and the first instant after it. -/
theorem spellings_agree_leap_day :
    instantMillis? " 1968-02-29T23:29:59.999-00:30 ".toList = some (-57974400001) ∧
      timeMillis? "23:29:59.999".toList = some 84599999 ∧
      (Relation.lt.outcome {} (.text " 1968-02-29T23:29:59.999-00:30 ")
        (.text "1968-03-01")).distance = .zero := by
  let leap : Date := ⟨1968, 2, 29, by decide, by decide⟩
  let first : Date := ⟨1968, 3, 1, by decide, by decide⟩
  let c : Clock := ⟨23, 29, 59, some 999⟩
  let w : Spelling := .zoned c (.behind 0 30)
  obtain ⟨-, hinstant, htime, hrelation⟩ := spellings_agree Config.isValid_default
  have hspace : ∀ c ∈ [' '], isBlank c = true := List.forall_mem_singleton.2 (by decide)
  have hleap : IsFramed (w.text leap) " 1968-02-29T23:29:59.999-00:30 ".toList :=
    ⟨[' '], [' '], hspace, hspace, by decide +kernel⟩
  have hfirst : IsFramed (Spelling.date.text first) "1968-03-01".toList :=
    ⟨[], [], by simp, by simp, by decide +kernel⟩
  have hclock : IsFramed c.text "23:29:59.999".toList :=
    ⟨[], [], by simp, by simp, by decide +kernel⟩
  have hmillis : w.instant leap = -57974400001 ∧ c.millis = 84599999 := by decide +kernel
  refine ⟨by rw [hinstant leap w _ (by decide) hleap, hmillis.1],
    by rw [htime c _ hclock, hmillis.2], ?_⟩
  refine ((hrelation .lt _ _).1 leap first w .date (by decide) (by decide) hleap hfirst).2 ?_
  show w.instant leap < Spelling.date.instant first
  decide +kernel

end Calendar

end BranchDistance
