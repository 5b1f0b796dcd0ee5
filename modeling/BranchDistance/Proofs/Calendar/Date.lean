import BranchDistance.Calendar.Date
import Mathlib

/-!
# The days of the calendar

The number of a date is computed from the lengths of years and months.  Going from one date to the
next, by the day, the month or the year, adds one to it (`Date.dayNumber_next`), and a date that
comes first in the calendar has the lesser number (`Date.dayNumber_lt_iff`).  So the number counts
the days from 1970-01-01, with a sign for those before it (`Date.dayNumber_eq_add_iff`).
-/

namespace BranchDistance.Calendar

theorem monthLength_pos (year : ℕ) {month : ℕ} (h : 1 ≤ month ∧ month ≤ 12) :
    1 ≤ monthLength year month := by
  unfold monthLength
  split_ifs <;> omega

/-! ### Years and months -/

theorem ceil_div_succ (n : ℕ) {k : ℕ} (hk : k ∈ [4, 100, 400]) :
    (n + 1 + (k - 1)) / k = (n + (k - 1)) / k + if n % k = 0 then 1 else 0 := by
  simp only [List.mem_cons, List.not_mem_nil, or_false] at hk
  rcases hk with rfl | rfl | rfl <;> split <;> omega

/-- Every fourth year is a leap year, but for those of the centuries that four hundred does not
divide. -/
theorem daysInMonths_twelve_add (year : ℕ) :
    daysInMonths year 12 + (if year % 100 = 0 then 1 else 0) =
      365 + (if year % 4 = 0 then 1 else 0) + (if year % 400 = 0 then 1 else 0) := by
  have hleap : isLeapYear year = true ↔ year % 4 = 0 ∧ (year % 100 ≠ 0 ∨ year % 400 = 0) := by
    simp [isLeapYear]
  rw [daysInMonths_twelve]
  simp only [hleap]
  split_ifs <;> omega

/-- Each year begins where the one before it ends. -/
theorem daysBeforeYear_succ (year : ℕ) :
    daysBeforeYear (year + 1) = daysBeforeYear year + daysInMonths year 12 := by
  have h4 := ceil_div_succ year (k := 4) (by decide)
  have h100 := ceil_div_succ year (k := 100) (by decide)
  have h400 := ceil_div_succ year (k := 400) (by decide)
  have hlength := daysInMonths_twelve_add year
  have hcenturies : (year + 99) / 100 ≤ (year + 3) / 4 := by omega
  have hcentury : (if year % 100 = 0 then 1 else 0) ≤ 1 := by split <;> omega
  simp only [Nat.reduceSub] at h4 h100 h400
  rw [daysBeforeYear, daysBeforeYear, h4, h100, h400]
  omega

theorem daysBeforeYear_mono {y z : ℕ} (h : y ≤ z) : daysBeforeYear y ≤ daysBeforeYear z := by
  induction z, h using Nat.le_induction with
  | base => exact le_rfl
  | succ z _ ih => exact ih.trans (by rw [daysBeforeYear_succ]; exact Nat.le_add_right _ _)

theorem daysInMonths_mono (year : ℕ) {m n : ℕ} (h : m ≤ n) :
    daysInMonths year m ≤ daysInMonths year n := by
  induction n, h using Nat.le_induction with
  | base => exact le_rfl
  | succ n _ ih => exact ih.trans (Nat.le_add_right _ _)

/-- The number of days from the start of a year to a date. -/
def Date.dayOfYear (d : Date) : ℕ := daysInMonths d.year (d.month - 1) + (d.day - 1)

theorem Date.dayNumber_eq (d : Date) :
    d.dayNumber = (daysBeforeYear d.year + d.dayOfYear : ℕ) - (epochDays : ℤ) := by
  rw [dayNumber, dayOfYear, Nat.add_assoc]

/-- A date lies in its month. -/
theorem Date.dayOfYear_lt (d : Date) : d.dayOfYear < daysInMonths d.year d.month := by
  obtain ⟨m, hm⟩ : ∃ m, d.month = m + 1 := ⟨d.month - 1, by have := d.month_mem; omega⟩
  have hday := d.day_mem
  rw [hm] at hday
  rw [dayOfYear, hm, Nat.add_sub_cancel, daysInMonths]
  omega

theorem Date.dayOfYear_lt_twelve (d : Date) : d.dayOfYear < daysInMonths d.year 12 :=
  d.dayOfYear_lt.trans_le (daysInMonths_mono _ d.month_mem.2)

/-! ### The next date -/

namespace Date

/-- The first date that the epoch counts from. -/
def epoch : Date := ⟨1970, 1, 1, by decide, by decide⟩

theorem dayNumber_epoch : epoch.dayNumber = 0 := by decide

/-- The date after a date: the next day of the month, or the first of the next month, or the first
of January. -/
def next (d : Date) : Date :=
  if hday : d.day < monthLength d.year d.month then
    ⟨d.year, d.month, d.day + 1, d.month_mem, by omega⟩
  else if hmonth : d.month < 12 then
    ⟨d.year, d.month + 1, 1, by omega, le_rfl, monthLength_pos _ (by omega)⟩
  else ⟨d.year + 1, 1, 1, by omega, le_rfl, monthLength_pos _ (by omega)⟩

/-- The next date has the next number. -/
theorem dayNumber_next (d : Date) : d.next.dayNumber = d.dayNumber + 1 := by
  obtain ⟨m, hm⟩ : ∃ m, d.month = m + 1 := ⟨d.month - 1, by have := d.month_mem; omega⟩
  have hday := d.day_mem
  have hmonths : daysInMonths d.year (m + 1) =
      daysInMonths d.year m + monthLength d.year (m + 1) := rfl
  rw [hm] at hday
  unfold next
  split_ifs with hlast hmonth
  · simp only [dayNumber]
    omega
  · rw [hm] at hlast
    simp only [dayNumber, hm, Nat.add_sub_cancel]
    omega
  · -- the last day of December
    obtain rfl : m = 11 := by
      have := d.month_mem
      omega
    rw [hm] at hlast
    have hdecember : daysInMonths d.year 12 =
        daysInMonths d.year 11 + monthLength d.year (11 + 1) := rfl
    have hfirst : daysInMonths (d.year + 1) (1 - 1) = 0 := rfl
    simp only [dayNumber, hm, daysBeforeYear_succ, Nat.add_sub_cancel, hfirst]
    omega

theorem dayNumber_iterate_next (d : Date) (n : ℕ) : (next^[n] d).dayNumber = d.dayNumber + n := by
  induction n with
  | zero => simp
  | succ n ih =>
    rw [Function.iterate_succ_apply', dayNumber_next, ih]
    push_cast
    ring

/-! ### The order of dates -/

/-- A date comes before another in the calendar. -/
def IsBefore (d e : Date) : Prop :=
  d.year < e.year ∨ d.year = e.year ∧ (d.month < e.month ∨ d.month = e.month ∧ d.day < e.day)

theorem dayNumber_lt_of_isBefore {d e : Date} (h : d.IsBefore e) : d.dayNumber < e.dayNumber := by
  rw [dayNumber_eq, dayNumber_eq]
  rcases h with hyear | ⟨hyear, hmonth | ⟨hmonth, hday⟩⟩
  · have hyears := daysBeforeYear_mono (Nat.succ_le_of_lt hyear)
    rw [Nat.succ_eq_add_one, daysBeforeYear_succ] at hyears
    have := d.dayOfYear_lt_twelve
    omega
  · have hmonths := daysInMonths_mono e.year (Nat.le_sub_one_of_lt hmonth)
    have hlt := d.dayOfYear_lt
    have hle : daysInMonths e.year (e.month - 1) ≤ e.dayOfYear := Nat.le_add_right _ _
    rw [hyear] at hlt ⊢
    omega
  · have hpos := d.day_mem.1
    have hlt : d.dayOfYear < e.dayOfYear := by
      rw [dayOfYear, dayOfYear, hyear, hmonth]
      omega
    rw [hyear]
    omega

theorem isBefore_trichotomy (d e : Date) : d.IsBefore e ∨ d = e ∨ e.IsBefore d := by
  rcases lt_trichotomy d.year e.year with hyear | hyear | hyear
  · exact .inl (.inl hyear)
  · rcases lt_trichotomy d.month e.month with hmonth | hmonth | hmonth
    · exact .inl (.inr ⟨hyear, .inl hmonth⟩)
    · rcases lt_trichotomy d.day e.day with hday | hday | hday
      · exact .inl (.inr ⟨hyear, .inr ⟨hmonth, hday⟩⟩)
      · refine .inr (.inl ?_)
        cases d
        cases e
        simp only at hyear hmonth hday
        subst hyear hmonth hday
        rfl
      · exact .inr (.inr (.inr ⟨hyear.symm, .inr ⟨hmonth.symm, hday⟩⟩))
    · exact .inr (.inr (.inr ⟨hyear.symm, .inl hmonth⟩))
  · exact .inr (.inr (.inl hyear))

/-- The numbers of dates follow the calendar. -/
theorem dayNumber_lt_iff {d e : Date} : d.dayNumber < e.dayNumber ↔ d.IsBefore e := by
  refine ⟨fun h => ?_, dayNumber_lt_of_isBefore⟩
  rcases isBefore_trichotomy d e with hde | rfl | hed
  · exact hde
  · exact absurd h (lt_irrefl _)
  · exact absurd (dayNumber_lt_of_isBefore hed) h.not_gt

theorem dayNumber_injective : Function.Injective dayNumber := by
  intro d e h
  rcases isBefore_trichotomy d e with hde | hde | hed
  · exact absurd h (dayNumber_lt_of_isBefore hde).ne
  · exact hde
  · exact absurd h (dayNumber_lt_of_isBefore hed).ne'

/-- The numbers of two dates are apart by the days from the one to the other. -/
theorem dayNumber_eq_add_iff {d e : Date} {n : ℕ} :
    e.dayNumber = d.dayNumber + n ↔ next^[n] d = e := by
  rw [← dayNumber_iterate_next, eq_comm]
  exact dayNumber_injective.eq_iff

end Date

end BranchDistance.Calendar
