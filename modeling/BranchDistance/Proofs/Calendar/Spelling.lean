import BranchDistance.Proofs.Calendar.Reading

/-!
# The spellings of an instant

An instant is spelled as a date, as a date and a time apart by a blank or by the letter `T`, or with
an offset from universal time after that.  Four readers are tried in turn, and each spelling is read
by one of them only (`Reader.readers_spelling`).  So all spellings of an instant are read as the
same number, with whatever blanks around them (`instantMillis?_of_isFramed`).
-/

namespace BranchDistance.Calendar

/-! ### Spellings -/

/-- The offset of local time from universal time. -/
inductive Zone where
  | universal
  | ahead (hours : Fin 24) (minutes : Fin 60)
  | behind (hours : Fin 24) (minutes : Fin 60)

namespace Zone

/-- The minutes by which local time is ahead. -/
def minutes : Zone → ℤ
  | universal => 0
  | ahead hours minutes => (hours.val * 60 + minutes.val : ℕ)
  | behind hours minutes => -(hours.val * 60 + minutes.val : ℕ)

/-- The written form. -/
def text : Zone → List Char
  | universal => ['Z']
  | ahead hours minutes => '+' :: (padded 2 hours ++ ':' :: padded 2 minutes)
  | behind hours minutes => '-' :: (padded 2 hours ++ ':' :: padded 2 minutes)

theorem ends_text (zone : Zone) : Clock.Ends zone.text := by
  intro c hc
  cases zone <;> cases hc <;> decide

theorem signedOffset_text {sign : Char} (hsign : sign = '+' ∨ sign = '-') (hours : Fin 24)
    (minutes : Fin 60) (rest : List Char) :
    Reader.offset (sign :: (padded 2 hours ++ ':' :: (padded 2 minutes ++ rest))) =
      some (if sign = '+' then ((hours.val * 60 + minutes.val : ℕ) : ℤ)
        else -(hours.val * 60 + minutes.val : ℕ), rest) := by
  have huniversal : ¬ (sign = 'Z' ∨ sign = 'z') := by rcases hsign with rfl | rfl <;> decide
  have hsigned : sign = '+' ∨ sign = '-' ∨ sign = '−' := hsign.imp_right .inl
  have hrange := And.intro hours.isLt minutes.isLt
  rw [Reader.offset, if_neg huniversal, if_pos hsigned]
  simp (disch := omega) only [Reader.bind_apply, Reader.number_padded, Option.bind_some,
    Reader.literal_cons, if_pos hrange]
  rfl

theorem offset_text (zone : Zone) (rest : List Char) :
    Reader.offset (zone.text ++ rest) = some (zone.minutes, rest) := by
  cases zone with
  | universal => rfl
  | ahead hours minutes =>
    simp only [text, List.cons_append, List.append_assoc]
    exact signedOffset_text (.inl rfl) hours minutes rest
  | behind hours minutes =>
    simp only [text, List.cons_append, List.append_assoc]
    exact signedOffset_text (.inr rfl) hours minutes rest

end Zone

/-- How an instant on a date is written. -/
inductive Spelling where
  | date
  | spaced (c : Clock)
  | joined (c : Clock)
  | zoned (c : Clock) (zone : Zone)

namespace Spelling

/-- The written form of what follows the date. -/
def tail : Spelling → List Char
  | date => []
  | spaced c => ' ' :: c.text
  | joined c => 'T' :: c.text
  | zoned c zone => 'T' :: (c.text ++ zone.text)

/-- The written form. -/
def text (d : Date) (w : Spelling) : List Char := d.text ++ w.tail

/-- The milliseconds from the start of the date in universal time. -/
def millis : Spelling → ℤ
  | date => 0
  | spaced c => c.millis
  | joined c => c.millis
  | zoned c zone => c.millis - zone.minutes * 60000

/-- The milliseconds since 1970-01-01 in universal time. -/
def instant (d : Date) (w : Spelling) : ℤ := d.dayNumber * 86400000 + w.millis

end Spelling

/-! ### The four readers -/

namespace Reader

theorem number_eq_none {least : ℕ} (most : ℕ) {cs : List Char}
    (h : (cs.takeWhile Char.isDigit).length < least) : number least most cs = none := by
  have hrun : ((cs.takeWhile Char.isDigit).take most).length < least := by
    rw [List.length_take]
    exact (min_le_right _ _).trans_lt h
  rw [number, bind_apply, digits, if_pos hrun]
  rfl

/-- No time of day begins with a letter or is empty. -/
theorem looseTime_eq_none {cs : List Char} (h : cs.takeWhile Char.isDigit = [])
    (hblank : cs.dropWhile Text.isBlank = cs) : looseTime cs = none := by
  have hnone : number 1 2 cs = none := number_eq_none 2 (by rw [h]; decide)
  simp only [looseTime, looseNumber, bind_apply, blanks, Option.bind_some, hblank, hnone,
    Option.bind_none]

theorem blanks_text (c : Clock) : blanks (' ' :: c.text) = some ((), c.text) := by
  show blanks c.text = some ((), c.text)
  exact blanks_padded 2 c.hour _

variable {d : Date} (h : d.year ≤ 9999) (c : Clock)

include h

theorem instantWithOffset_zoned (zone : Zone) :
    instantWithOffset ((Spelling.zoned c zone).text d) =
      some ((Spelling.zoned c zone).instant d, []) := by
  have hoffset := zone.offset_text []
  rw [List.append_nil] at hoffset
  simp only [instantWithOffset, bind_apply, Spelling.text, Spelling.tail, Date.strictDate_text h,
    Option.bind_some, oneOf, beq_self_eq_true, Bool.true_or, if_true,
    Clock.strictTime_text zone.ends_text, hoffset, done, pure_apply, millisAt,
    Clock.millis_time, Spelling.instant, Spelling.millis, Int.add_sub_assoc]

/-- Without an offset the first reader fails at the end. -/
theorem instantWithOffset_eq_none {w : Spelling} (hw : ∀ c zone, w ≠ .zoned c zone) :
    instantWithOffset (w.text d) = none := by
  have htime {sep : Char} (hsep : (sep == 'T' || sep == 't' || sep == ' ') = true) (c : Clock) :
      instantWithOffset (d.text ++ sep :: c.text) = none := by
    simp only [instantWithOffset, bind_apply, Date.strictDate_text h, Option.bind_some, oneOf, hsep,
      if_true, c.strictTime_text_nil, offset, Option.bind_none]
  cases w with
  | date =>
    simp only [instantWithOffset, bind_apply, Spelling.text, Spelling.tail, Date.strictDate_text h,
      Option.bind_some, oneOf, Option.bind_none]
  | spaced c => exact htime (by decide) c
  | joined c => exact htime (by decide) c
  | zoned c zone => exact absurd rfl (hw c zone)

theorem instantWithTime_text {between : Reader Unit} {cs : List Char}
    (hbetween : between cs = some ((), c.text)) :
    instantWithTime between (d.text ++ cs) = some (d.dayNumber * 86400000 + c.millis, []) := by
  simp only [instantWithTime, bind_apply, Date.looseDate_text h, Option.bind_some, hbetween,
    c.looseTime_text_nil, done, pure_apply, millisAt, Clock.millis_time]

theorem instantWithTime_eq_none {between : Reader Unit} {cs : List Char}
    (hbetween : ∀ rest, between cs = some ((), rest) → looseTime rest = none) :
    instantWithTime between (d.text ++ cs) = none := by
  simp only [instantWithTime, bind_apply, Date.looseDate_text h, Option.bind_some]
  rcases hb : between cs with _ | ⟨⟨⟩, rest⟩
  · rfl
  · simp only [Option.bind_some, hbetween rest hb, Option.bind_none]

theorem instantOfDate_text :
    instantOfDate (Spelling.date.text d) = some (Spelling.date.instant d, []) := by
  simp only [instantOfDate, bind_apply, Spelling.text, Spelling.tail, Date.looseDate_text h,
    Option.bind_some, done, pure_apply, millisAtMidnight, Spelling.instant, Spelling.millis,
    Int.add_zero]

/-- Of the four readers tried in turn, the first that reads a spelling reads its instant. -/
theorem readers_spelling (w : Spelling) :
    (instantWithOffset (w.text d) <|> instantWithTime blanks (w.text d) <|>
      instantWithTime (literal 'T') (w.text d) <|> instantOfDate (w.text d)) =
      some (w.instant d, []) := by
  cases w with
  | zoned c zone =>
    rw [instantWithOffset_zoned h]
    rfl
  | spaced c =>
    rw [instantWithOffset_eq_none h (by simp), Spelling.text, Spelling.tail,
      instantWithTime_text h c (blanks_text c)]
    rfl
  | joined c =>
    have hblanks : ∀ rest, blanks ('T' :: c.text) = some ((), rest) → looseTime rest = none := by
      rintro rest ⟨⟩
      exact looseTime_eq_none rfl rfl
    rw [instantWithOffset_eq_none h (by simp), Spelling.text, Spelling.tail,
      instantWithTime_eq_none h hblanks, instantWithTime_text h c (literal_cons 'T' c.text)]
    rfl
  | date =>
    have hblanks : ∀ rest, blanks [] = some ((), rest) → looseTime rest = none := by
      rintro rest ⟨⟩
      exact looseTime_eq_none rfl rfl
    have hletter : ∀ rest, literal 'T' [] = some ((), rest) → looseTime rest = none := by
      rintro rest ⟨⟩
    rw [instantWithOffset_eq_none h (by simp), instantOfDate_text h, Spelling.text, Spelling.tail,
      instantWithTime_eq_none h hblanks, instantWithTime_eq_none h hletter]
    rfl

omit h in
/-- A time of day is read by none of them: two digits are too few for a year of fixed width, and a
colon follows. -/
theorem readers_clock :
    (instantWithOffset c.text <|> instantWithTime blanks c.text <|>
      instantWithTime (literal 'T') c.text <|> instantOfDate c.text) = none := by
  have hlength : (padded 2 c.hour).length = 2 := length_padded (by omega) (by omega)
  have hstrict : strictDate c.text = none := by
    have hrun : (c.text.takeWhile Char.isDigit).length < 4 := by
      rw [Clock.text, List.takeWhile_append_of_pos fun a => isDigit_of_mem_padded,
        List.takeWhile_cons_of_neg (by decide), List.append_nil, hlength]
      decide
    rw [strictDate, bind_apply, number_eq_none 4 hrun]
    rfl
  have hloose : looseDate c.text = none := by
    rw [looseDate, Clock.text, bind_apply, looseNumber, bind_apply, blanks_padded, Option.bind_some,
      number_append (fun a => isDigit_of_mem_padded) (by omega) (.inr ⟨by omega, rfl⟩),
      Option.bind_some, bind_apply, literal_cons_of_ne (by decide)]
    rfl
  simp only [instantWithOffset, instantWithTime, instantOfDate, bind_apply, hstrict, hloose,
    Option.bind_none]
  rfl

end Reader

/-! ### Texts with blanks around them -/

theorem forall_padded_not_isBlank (width n : ℕ) : ∀ a ∈ padded width n, Text.isBlank a = false :=
  fun _ ha => Text.not_isBlank_of_isDigit (isDigit_of_mem_padded ha)

theorem Date.forall_text_not_isBlank (d : Date) : ∀ a ∈ d.text, Text.isBlank a = false := by
  have hpadded := forall_padded_not_isBlank
  simp only [text, List.forall_mem_append, List.forall_mem_cons]
  exact ⟨hpadded _ _, by decide, hpadded _ _, by decide, hpadded _ _⟩

theorem Clock.forall_text_not_isBlank (c : Clock) : ∀ a ∈ c.text, Text.isBlank a = false := by
  have hpadded := forall_padded_not_isBlank
  have hfraction : ∀ a ∈ c.fractionText, Text.isBlank a = false := by
    rw [fractionText]
    split
    · exact List.forall_mem_nil _
    · exact List.forall_mem_cons.2 ⟨by decide, hpadded _ _⟩
  simp only [text, List.forall_mem_append, List.forall_mem_cons]
  exact ⟨hpadded _ _, by decide, hpadded _ _, by decide, hpadded _ _, hfraction⟩

theorem Zone.forall_text_not_isBlank (zone : Zone) : ∀ a ∈ zone.text, Text.isBlank a = false := by
  have hpadded := forall_padded_not_isBlank
  cases zone <;> simp only [text, List.forall_mem_append, List.forall_mem_cons]
  case universal => exact ⟨by decide, List.forall_mem_nil _⟩
  case ahead => exact ⟨by decide, hpadded _ _, by decide, hpadded _ _⟩
  case behind => exact ⟨by decide, hpadded _ _, by decide, hpadded _ _⟩

theorem Clock.trim_text (c : Clock) : Text.trim c.text = c.text :=
  Text.trim_of_not_isBlank c.forall_text_not_isBlank

theorem Clock.text_ne_nil (c : Clock) : c.text ≠ [] := by
  simp [text]

theorem Zone.text_ne_nil (zone : Zone) : zone.text ≠ [] := by
  cases zone <;> simp [text]

theorem Date.exists_text_eq_cons (d : Date) : ∃ a cs, d.text = a :: cs ∧ a.isDigit = true := by
  obtain ⟨a, cs, hcs, ha⟩ := exists_padded_eq_cons 4 d.year
  exact ⟨a, _, by rw [text, hcs, List.cons_append], ha⟩

namespace Spelling

variable (d : Date) (w : Spelling)

/-- No spelling begins or ends with a blank. -/
theorem trim_text : Text.trim (w.text d) = w.text d := by
  obtain ⟨a, cs, hcs, ha⟩ := d.exists_text_eq_cons
  have hfollowed (before : List Char) {after : List Char}
      (hafter : ∀ c ∈ after, Text.isBlank c = false) (hne : after ≠ []) :
      Text.trim (d.text ++ (before ++ after)) = d.text ++ (before ++ after) := by
    rw [hcs, List.cons_append, ← List.append_assoc]
    exact Text.trim_append_of_not_isBlank (Text.not_isBlank_of_isDigit ha) hafter hne _
  cases w with
  | date =>
    rw [text, tail, List.append_nil]
    exact Text.trim_of_not_isBlank d.forall_text_not_isBlank
  | spaced c => exact hfollowed [' '] c.forall_text_not_isBlank c.text_ne_nil
  | joined c => exact hfollowed ['T'] c.forall_text_not_isBlank c.text_ne_nil
  | zoned c zone =>
    exact hfollowed ('T' :: c.text) zone.forall_text_not_isBlank zone.text_ne_nil

end Spelling

/-- A character has at least one byte. -/
theorem length_le_utf8Len (cs : List Char) : cs.length ≤ String.utf8Len cs := by
  induction cs with
  | nil => exact Nat.zero_le _
  | cons c cs ih =>
    rw [List.length_cons, String.utf8Len_cons]
    exact Nat.add_le_add ih c.utf8Size_pos

theorem Date.length_text {d : Date} (h : d.year ≤ 9999) : d.text.length = 10 := by
  have hmonth := d.month_mem
  have hday := d.day_mem
  have hlength := monthLength_le d.year d.month
  simp (disch := omega) only [text, List.length_append, List.length_cons, length_padded]

/-! ### Instants and times of day -/

/-- The instant of a text is that of its spelling, whatever blanks stand around it. -/
theorem instantMillis?_of_isFramed {d : Date} (h : d.year ≤ 9999) {w : Spelling} {text : List Char}
    (hframed : Text.IsFramed (w.text d) text) : instantMillis? text = some (w.instant d) := by
  have htrim : Text.trim text = w.text d := hframed.trim_eq.trans (w.trim_text d)
  obtain ⟨a, cs, hcs, ha⟩ := d.exists_text_eq_cons
  have hsize : 10 ≤ (String.ofList (w.text d)).utf8ByteSize := by
    rw [String.utf8ByteSize_ofList]
    refine le_trans ?_ (length_le_utf8Len _)
    rw [Spelling.text, List.length_append, Date.length_text h]
    exact Nat.le_add_right _ _
  have hcons : w.text d = a :: (cs ++ w.tail) := by rw [Spelling.text, hcs, List.cons_append]
  have hadmitted : ¬ ((String.ofList (w.text d)).utf8ByteSize < 10 ∨ (!a.isDigit) = true) := by
    rw [ha]
    exact not_or.2 ⟨hsize.not_gt, by decide⟩
  have hread := Reader.readers_spelling h w
  rw [hcons] at hadmitted hread
  simp only [instantMillis?, htrim, hcons, if_neg hadmitted, hread, Option.map_some]

/-- No time of day names an instant. -/
theorem instantMillis?_clock {c : Clock} {text : List Char} (hframed : Text.IsFramed c.text text) :
    instantMillis? text = none := by
  have htrim : Text.trim text = c.text := hframed.trim_eq.trans c.trim_text
  rw [instantMillis?, htrim]
  split
  · rfl
  · split
    · rfl
    · rw [Reader.readers_clock]
      rfl

theorem timeMillis?_of_isFramed {c : Clock} {text : List Char}
    (hframed : Text.IsFramed c.text text) : timeMillis? text = some c.millis := by
  rw [timeMillis?, hframed.trim_eq, c.trim_text, Reader.timeAlone, Reader.bind_apply,
    c.looseTime_text_nil]
  simp only [Option.bind_some, Reader.bind_apply, Reader.done, Reader.pure_apply, Option.map_some,
    Clock.millis_time]

end BranchDistance.Calendar
