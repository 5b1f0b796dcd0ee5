/-!
# Dates and times of day

The proleptic Gregorian calendar from year 0 on, and times of day to the nanosecond.  A date is
placed on the time axis by its day number, counted from 1970-01-01.
-/

namespace BranchDistance.Calendar

/-- Whether a year has a 29th of February. -/
def isLeapYear (year : Nat) : Bool := year % 4 == 0 && (year % 100 != 0 || year % 400 == 0)

/-- The number of days in a month; months other than `1` to `12` have none. -/
def monthLength (year month : Nat) : Nat :=
  if month = 2 then if isLeapYear year then 29 else 28
  else if month = 4 ∨ month = 6 ∨ month = 9 ∨ month = 11 then 30
  else if 1 ≤ month ∧ month ≤ 12 then 31
  else 0

/-- A day of the calendar. -/
structure Date where
  year : Nat
  month : Nat
  day : Nat
  month_mem : 1 ≤ month ∧ month ≤ 12
  day_mem : 1 ≤ day ∧ day ≤ monthLength year month

/-- The day with the given numbers, if there is one. -/
def Date.ofNumbers? (year month day : Nat) : Option Date :=
  if hm : 1 ≤ month ∧ month ≤ 12 then
    if hd : 1 ≤ day ∧ day ≤ monthLength year month then some ⟨year, month, day, hm, hd⟩ else none
  else none

/-- The number of days from the start of year 0 to the start of a year. -/
def daysBeforeYear (year : Nat) : Nat :=
  365 * year + (year + 3) / 4 - (year + 99) / 100 + (year + 399) / 400

/-- The number of days in the first `months` months of a year. -/
def daysInMonths (year : Nat) : Nat → Nat
  | 0 => 0
  | months + 1 => daysInMonths year months + monthLength year (months + 1)

/-- The number of days from the start of year 0 to 1970-01-01. -/
def epochDays : Nat := 719528

/-- The number of days from 1970-01-01 to a date; negative before it. -/
def Date.dayNumber (d : Date) : Int :=
  (daysBeforeYear d.year + daysInMonths d.year (d.month - 1) + (d.day - 1) : Nat) -
    (epochDays : Int)

/-- A time of day.  The sixtieth second is the leap second, which any minute may have. -/
structure TimeOfDay where
  hour : Nat
  minute : Nat
  second : Nat
  nanosecond : Nat
  hour_lt : hour < 24
  minute_lt : minute < 60
  second_le : second ≤ 60
  nanosecond_lt : nanosecond < 1000000000

/-- The time with the given numbers, if there is one. -/
def TimeOfDay.ofNumbers? (hour minute second nanosecond : Nat) : Option TimeOfDay :=
  if h : hour < 24 ∧ minute < 60 ∧ second ≤ 60 ∧ nanosecond < 1000000000 then
    some ⟨hour, minute, second, nanosecond, h.1, h.2.1, h.2.2.1, h.2.2.2⟩
  else none

/-- Whole milliseconds since midnight. -/
def TimeOfDay.millis (t : TimeOfDay) : Nat :=
  ((t.hour * 60 + t.minute) * 60 + t.second) * 1000 + t.nanosecond / 1000000

/-- Whole milliseconds from the start of 1970-01-01 to a time on a date. -/
def millisAt (d : Date) (t : TimeOfDay) : Int := d.dayNumber * 86400000 + t.millis

/-- Whole milliseconds from the start of 1970-01-01 to the start of a date. -/
def millisAtMidnight (d : Date) : Int := d.dayNumber * 86400000

/-- Each year is as long as the sum of its months. -/
theorem daysInMonths_twelve (year : Nat) :
    daysInMonths year 12 = if isLeapYear year then 366 else 365 := by
  cases h : isLeapYear year <;> simp [daysInMonths, monthLength, h]

end BranchDistance.Calendar
