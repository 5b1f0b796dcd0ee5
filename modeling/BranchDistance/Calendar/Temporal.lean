import BranchDistance.Calendar.Date
import BranchDistance.Decimal.Reading
import BranchDistance.Text.Blank

/-!
# Text that names an instant or a time of day

An instant is written as a date, as a date with a time, or as a date with a time and its offset from
universal time.  The first form with an offset has fixed widths; the forms without one allow fewer
digits and blanks before each number.  A time of day is written alone.
-/

namespace BranchDistance.Calendar

open Text (isBlank)

/-- A reader takes what it needs from the front of a text, or fails. -/
abbrev Reader := StateT (List Char) Option

namespace Reader

/-- Takes one given character. -/
def literal (c : Char) : Reader Unit := fun
  | [] => none
  | d :: rest => if d = c then some ((), rest) else none

/-- Takes one character that satisfies `p`. -/
def oneOf (p : Char → Bool) : Reader Unit := fun
  | [] => none
  | d :: rest => if p d then some ((), rest) else none

/-- Takes as many digits as there are, up to `most`, and at least `least`. -/
def digits (least most : Nat) : Reader (List Char) := fun cs =>
  let run := (cs.takeWhile Char.isDigit).take most
  if run.length < least then none else some (run, cs.drop run.length)

/-- Takes a number of at least `least` and at most `most` digits. -/
def number (least most : Nat) : Reader Nat := do
  return Decimal.ofDigits (← digits least most)

/-- Takes all blanks at the front. -/
def blanks : Reader Unit := fun cs => some ((), cs.dropWhile isBlank)

/-- Takes blanks and then a number of at most `most` digits. -/
def looseNumber (most : Nat) : Reader Nat := do
  blanks
  number 1 most

/-- Takes a decimal fraction of a second, if there is one, in nanoseconds; later digits are
dropped. -/
def fraction : Reader Nat := fun
  | '.' :: rest => (do
      let run ← digits 1 9
      modify (·.dropWhile Char.isDigit)
      return Decimal.ofDigits run * Nat.pow 10 (9 - run.length) : Reader Nat) rest
  | cs => some (0, cs)

/-- Succeeds at the end of the text only. -/
def done : Reader Unit := fun
  | [] => some ((), [])
  | _ :: _ => none

/-- Takes a date of fixed widths. -/
def strictDate : Reader Date := do
  let year ← number 4 4
  literal '-'
  let month ← number 2 2
  literal '-'
  let day ← number 2 2
  Date.ofNumbers? year month day

/-- Takes a time of fixed widths. -/
def strictTime : Reader TimeOfDay := do
  let hour ← number 2 2
  literal ':'
  let minute ← number 2 2
  literal ':'
  let second ← number 2 2
  let nanosecond ← fraction
  TimeOfDay.ofNumbers? hour minute second nanosecond

/-- Takes the number of minutes by which local time is ahead of universal time. -/
def offset : Reader Int := fun
  | [] => none
  | sign :: rest =>
    if sign = 'Z' ∨ sign = 'z' then some (0, rest)
    else if sign = '+' ∨ sign = '-' ∨ sign = '−' then
      (do
        let hours ← number 2 2
        literal ':'
        let minutes ← number 2 2
        if hours < 24 ∧ minutes < 60 then
          let total : Int := hours * 60 + minutes
          return if sign = '+' then total else -total
        else failure : Reader Int) rest
    else none

/-- Takes a date that may have fewer digits. -/
def looseDate : Reader Date := do
  let year ← looseNumber 4
  literal '-'
  let month ← looseNumber 2
  literal '-'
  let day ← looseNumber 2
  Date.ofNumbers? year month day

/-- Takes a time that may have fewer digits. -/
def looseTime : Reader TimeOfDay := do
  let hour ← looseNumber 2
  literal ':'
  let minute ← looseNumber 2
  literal ':'
  let second ← looseNumber 2
  let nanosecond ← fraction
  TimeOfDay.ofNumbers? hour minute second nanosecond

/-- A date, a time and an offset. -/
def instantWithOffset : Reader Int := do
  let date ← strictDate
  oneOf fun c => c == 'T' || c == 't' || c == ' '
  let time ← strictTime
  let minutes ← offset
  done
  return millisAt date time - minutes * 60000

/-- A date and a time, apart by what `between` takes. -/
def instantWithTime (between : Reader Unit) : Reader Int := do
  let date ← looseDate
  between
  let time ← looseTime
  done
  return millisAt date time

/-- A date alone. -/
def instantOfDate : Reader Int := do
  let date ← looseDate
  done
  return millisAtMidnight date

/-- A time alone. -/
def timeAlone : Reader Nat := do
  let time ← looseTime
  done
  return time.millis

end Reader

/-- The instant that a text names, in milliseconds since 1970-01-01 in universal time.  Blanks
around the text are ignored.  A text shorter than the least date with two-digit numbers, or one that
starts with no digit, names none. -/
def instantMillis? (text : List Char) : Option Int :=
  let cs := Text.trim text
  match cs with
  | [] => none
  | c :: _ =>
    if (String.ofList cs).utf8ByteSize < 10 ∨ !c.isDigit then none
    else
      ((Reader.instantWithOffset cs <|> Reader.instantWithTime Reader.blanks cs <|>
        Reader.instantWithTime (Reader.literal 'T') cs <|> Reader.instantOfDate cs).map (·.1))

/-- The time of day that a text names, in milliseconds since midnight. -/
def timeMillis? (text : List Char) : Option Nat :=
  (Reader.timeAlone (Text.trim text)).map (·.1)

end BranchDistance.Calendar
