import BranchDistance.Calendar.Temporal
import BranchDistance.Proofs.Decimal.Integer

/-!
# Reading numbers of fixed width

Dates and times are written with numbers of a fixed width, `padded`.  A reader of numbers takes such
a number whole, whatever follows it, as long as it takes no more digits than the width
(`Reader.number_padded`).  So each part of a date or a time is read without looking at the next one.
-/

namespace BranchDistance.Calendar

/-- The decimal digits of a number, after zeros up to a width. -/
def padded (width n : ℕ) : List Char := (Nat.toDigits 10 n).leftpad width '0'

variable {width n : ℕ}

theorem isDigit_of_mem_padded {c : Char} (h : c ∈ padded width n) : c.isDigit = true := by
  rcases List.mem_append.1 h with h | h
  · rw [List.eq_of_mem_replicate h]
    decide
  · exact Decimal.isDigit_of_mem_toDigits h

theorem length_padded (h : n < 10 ^ width) (hwidth : 0 < width) :
    (padded width n).length = width := by
  have hlength := (Nat.length_toDigits_le_iff (b := 10) (by omega) hwidth).2 h
  rw [padded, List.leftpad, List.length_append, List.length_replicate]
  omega

theorem exists_padded_eq_cons (width n : ℕ) :
    ∃ c cs, padded width n = c :: cs ∧ c.isDigit = true := by
  obtain ⟨c, cs, h⟩ : ∃ c cs, padded width n = c :: cs := by
    obtain ⟨c, cs, h, -⟩ := Decimal.exists_toDigits_eq n
    refine List.exists_cons_of_ne_nil ?_
    rw [padded, List.leftpad, h]
    exact List.append_ne_nil_of_right_ne_nil _ (List.cons_ne_nil c cs)
  exact ⟨c, cs, h, isDigit_of_mem_padded (h ▸ List.mem_cons_self)⟩

theorem ofDigits_padded (width n : ℕ) : Decimal.ofDigits (padded width n) = n := by
  have hzeros (k : ℕ) (ds : List Char) :
      Decimal.ofDigits (List.replicate k '0' ++ ds) = Decimal.ofDigits ds := by
    induction k with
    | zero => rfl
    | succ k ih => exact ih
  rw [padded, List.leftpad, hzeros, Decimal.ofDigits_toDigits]

namespace Reader

variable {α β : Type}

theorem bind_apply (r : Reader α) (f : α → Reader β) (cs : List Char) :
    (r >>= f) cs = (r cs).bind fun p => f p.1 p.2 := rfl

theorem pure_apply (a : α) (cs : List Char) : (pure a : Reader α) cs = some (a, cs) := rfl

theorem modify_apply (f : List Char → List Char) (cs : List Char) :
    (modify f : Reader PUnit) cs = some ((), f cs) := rfl

theorem literal_cons (c : Char) (cs : List Char) : literal c (c :: cs) = some ((), cs) := if_pos rfl

theorem literal_cons_of_ne {c d : Char} (h : d ≠ c) (cs : List Char) :
    literal c (d :: cs) = none := if_neg h

/-- A run of digits is taken whole if it is as long as is taken, or if no digit follows. -/
theorem digits_append {least most : ℕ} {ds rest : List Char} (hds : ∀ c ∈ ds, c.isDigit = true)
    (hleast : least ≤ ds.length)
    (hmost : ds.length = most ∨ ds.length ≤ most ∧ rest.takeWhile Char.isDigit = []) :
    digits least most (ds ++ rest) = some (ds, rest) := by
  have hrun : ((ds ++ rest).takeWhile Char.isDigit).take most = ds := by
    rw [List.takeWhile_append_of_pos hds]
    rcases hmost with rfl | ⟨hmost, hrest⟩
    · exact List.take_left
    · rw [hrest, List.append_nil, List.take_of_length_le hmost]
  simp only [digits, hrun]
  rw [if_neg hleast.not_gt, List.drop_left]

theorem number_append {least most : ℕ} {ds rest : List Char} (hds : ∀ c ∈ ds, c.isDigit = true)
    (hleast : least ≤ ds.length)
    (hmost : ds.length = most ∨ ds.length ≤ most ∧ rest.takeWhile Char.isDigit = []) :
    number least most (ds ++ rest) = some (Decimal.ofDigits ds, rest) := by
  rw [number, bind_apply, digits_append hds hleast hmost]
  rfl

/-- A number of the greatest width is taken whole. -/
theorem number_padded {least : ℕ} (h : n < 10 ^ width) (hwidth : 0 < width) (hleast : least ≤ width)
    (rest : List Char) : number least width (padded width n ++ rest) = some (n, rest) := by
  have hlength := length_padded h hwidth
  rw [number_append (fun c => isDigit_of_mem_padded) (hleast.trans_eq hlength.symm) (.inl hlength),
    ofDigits_padded]

theorem lift_apply (o : Option α) (cs : List Char) :
    (liftM o : Reader α) cs = o.map fun a => (a, cs) := by
  cases o <;> rfl

theorem blanks_of_not_isBlank {c : Char} (h : Text.isBlank c = false) (cs : List Char) :
    blanks (c :: cs) = some ((), c :: cs) := by
  rw [blanks, List.dropWhile_cons_of_neg (by simp [h])]

theorem blanks_padded (width n : ℕ) (rest : List Char) :
    blanks (padded width n ++ rest) = some ((), padded width n ++ rest) := by
  obtain ⟨c, cs, hcs, hc⟩ := exists_padded_eq_cons width n
  rw [hcs, List.cons_append, blanks_of_not_isBlank (Text.not_isBlank_of_isDigit hc)]

/-- Nothing stands before the digits that may be a blank. -/
theorem looseNumber_padded (h : n < 10 ^ width) (hwidth : 0 < width) (rest : List Char) :
    looseNumber width (padded width n ++ rest) = some (n, rest) := by
  rw [looseNumber, bind_apply, blanks_padded]
  exact number_padded h hwidth hwidth rest

end Reader

/-! ### Dates -/

theorem monthLength_le (year month : ℕ) : monthLength year month ≤ 31 := by
  unfold monthLength
  split_ifs <;> omega

namespace Date

/-- The date with its numbers at full width. -/
def text (d : Date) : List Char :=
  padded 4 d.year ++ '-' :: (padded 2 d.month ++ '-' :: padded 2 d.day)

theorem ofNumbers?_self (d : Date) : ofNumbers? d.year d.month d.day = some d := by
  rw [ofNumbers?, dif_pos d.month_mem, dif_pos d.day_mem]

variable {d : Date} (h : d.year ≤ 9999) (rest : List Char)

include h

theorem strictDate_text : Reader.strictDate (d.text ++ rest) = some (d, rest) := by
  have hmonth := d.month_mem
  have hday := d.day_mem
  have hlength := monthLength_le d.year d.month
  simp (disch := omega) only [Reader.strictDate, Reader.bind_apply, text, List.append_assoc,
    List.cons_append, Reader.number_padded, Option.bind_some, Reader.literal_cons,
    Reader.lift_apply, ofNumbers?_self, Option.map_some]

theorem looseDate_text : Reader.looseDate (d.text ++ rest) = some (d, rest) := by
  have hmonth := d.month_mem
  have hday := d.day_mem
  have hlength := monthLength_le d.year d.month
  simp (disch := omega) only [Reader.looseDate, Reader.bind_apply, text, List.append_assoc,
    List.cons_append, Reader.looseNumber_padded, Option.bind_some, Reader.literal_cons,
    Reader.lift_apply, ofNumbers?_self, Option.map_some]

end Date

/-! ### Times of day -/

/-- A time of day as it is written, to the second or to the millisecond. -/
structure Clock where
  hour : Fin 24
  minute : Fin 60
  second : Fin 60
  millisecond : Option (Fin 1000)

namespace Clock

/-- The milliseconds after the second. -/
def rest (c : Clock) : ℕ := (c.millisecond.map Fin.val).getD 0

theorem rest_lt (c : Clock) : c.rest < 1000 := by
  unfold rest
  rcases c.millisecond with _ | ms
  · exact Nat.zero_lt_succ _
  · exact ms.isLt

/-- The milliseconds since midnight. -/
def millis (c : Clock) : ℕ := ((c.hour * 60 + c.minute) * 60 + c.second) * 1000 + c.rest

/-- The written form of what follows the second. -/
def fractionText (c : Clock) : List Char :=
  match c.millisecond with
  | none => []
  | some ms => '.' :: padded 3 ms

/-- The written form. -/
def text (c : Clock) : List Char :=
  padded 2 c.hour ++ ':' :: (padded 2 c.minute ++ ':' :: (padded 2 c.second ++ c.fractionText))

/-- The time of day that is written. -/
def time (c : Clock) : TimeOfDay where
  hour := c.hour
  minute := c.minute
  second := c.second
  nanosecond := c.rest * 1000000
  hour_lt := c.hour.isLt
  minute_lt := c.minute.isLt
  second_le := c.second.isLt.le
  nanosecond_lt := by have := c.rest_lt; omega

theorem millis_time (c : Clock) : c.time.millis = c.millis := by
  simp only [TimeOfDay.millis, time, millis]
  omega

theorem ofNumbers?_time (c : Clock) :
    TimeOfDay.ofNumbers? c.hour c.minute c.second (c.rest * 1000000) = some c.time :=
  dif_pos ⟨c.time.hour_lt, c.time.minute_lt, c.time.second_le, c.time.nanosecond_lt⟩

/-- Neither a digit nor a point follows. -/
def Ends (cs : List Char) : Prop := ∀ c ∈ cs.head?, c.isDigit = false ∧ c ≠ '.'

theorem ends_nil : Ends [] := by simp [Ends]

theorem takeWhile_isDigit_of_ends {cs : List Char} (h : Ends cs) :
    cs.takeWhile Char.isDigit = [] ∧ cs.dropWhile Char.isDigit = cs := by
  rcases cs with _ | ⟨c, cs⟩
  · exact ⟨rfl, rfl⟩
  · have hc := (h c rfl).1
    simp [hc]

variable {cs : List Char} (h : Ends cs) (c : Clock)

include h

theorem fraction_text : Reader.fraction (c.fractionText ++ cs) = some (c.rest * 1000000, cs) := by
  obtain ⟨htake, hdrop⟩ := takeWhile_isDigit_of_ends h
  rcases c with ⟨_, _, _, _ | ms⟩
  · rcases cs with _ | ⟨d, cs⟩
    · simp [fractionText, rest, Reader.fraction]
    · have hd := (h d rfl).2
      simp [fractionText, rest, Reader.fraction, hd]
  · have hlength : (padded 3 ms).length = 3 := length_padded (by omega) (by omega)
    have hdigits : Reader.digits 1 9 (padded 3 ms ++ cs) = some (padded 3 ms, cs) :=
      Reader.digits_append (fun c => isDigit_of_mem_padded) (by omega) (.inr ⟨by omega, htake⟩)
    have hscale : Nat.pow 10 (9 - 3) = 1000000 := by decide
    simp only [fractionText, List.cons_append, Reader.fraction, Reader.bind_apply, hdigits,
      Option.bind_some, Reader.modify_apply, Reader.pure_apply, hdrop, hlength, ofDigits_padded,
      hscale, rest, Option.map_some, Option.getD_some]

theorem strictTime_text : Reader.strictTime (c.text ++ cs) = some (c.time, cs) := by
  have hhour := c.hour.isLt
  have hminute := c.minute.isLt
  have hsecond := c.second.isLt
  simp (disch := omega) only [Reader.strictTime, Reader.bind_apply, text, List.append_assoc,
    List.cons_append, Reader.number_padded, Option.bind_some, Reader.literal_cons, fraction_text h,
    Reader.lift_apply, ofNumbers?_time, Option.map_some]

theorem looseTime_text : Reader.looseTime (c.text ++ cs) = some (c.time, cs) := by
  have hhour := c.hour.isLt
  have hminute := c.minute.isLt
  have hsecond := c.second.isLt
  simp (disch := omega) only [Reader.looseTime, Reader.bind_apply, text, List.append_assoc,
    List.cons_append, Reader.looseNumber_padded, Option.bind_some, Reader.literal_cons,
    fraction_text h, Reader.lift_apply, ofNumbers?_time, Option.map_some]

end Clock

theorem Clock.strictTime_text_nil (c : Clock) : Reader.strictTime c.text = some (c.time, []) := by
  simpa only [List.append_nil] using strictTime_text ends_nil c

theorem Clock.looseTime_text_nil (c : Clock) : Reader.looseTime c.text = some (c.time, []) := by
  simpa only [List.append_nil] using looseTime_text ends_nil c

end BranchDistance.Calendar
