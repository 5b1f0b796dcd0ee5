import BranchDistance.Sql.TypeName

/-!
# Parts of times and intervals

A part of a time is named by a keyword or by any other name.  An interval is a value with such a
part as its unit.
-/

namespace BranchDistance.Sql

namespace Rule

/-- A part of a time: a keyword for one, perhaps with the first day of a week, or any name. -/
def timeField : Rule String := do
  match ← ahead with
  | .text .plain content :: _ => skip 1; return (Literal.text .plain content).render
  | .word w :: _ =>
    skip 1
    if w.keyword = "WEEK" then
      if ← symbol? "(" then
        let day ← name
        symbol ")"
        return "WEEK(" ++ day.render ++ ")"
      else return "WEEK"
    else if timeFields.contains w.keyword then return w.keyword
    else return (Name.ofWord w).render
  | _ => mismatch

/-- The unit of an interval, if one is next. -/
def intervalUnit? : Rule String := do
  match ← ahead with
  | t :: _ => if intervalUnits.contains t.keyword then timeField else return ""
  | [] => return ""

/-- What follows the value of an interval: its unit with a precision, and perhaps the last unit that
counts. -/
def intervalTail : Rule String := do
  let unit ← intervalUnit?
  if unit = "SECOND" then return words [unit, ← precision? ", "]
  else
    let size ← size?
    if ← keyword? "TO" then
      let last ← timeField
      let places ← if last = "SECOND" then size? else pure ""
      return words [unit, size, "TO", last, places]
    else return words [unit, size]

/-- An interval with the given value. -/
def intervalOf (value : Expr) : Rule Expr :=
  return .other (words ["INTERVAL", value.render, ← intervalTail])

/-- An expression with the collation that may follow it. -/
def collated (e : Expr) : Rule Expr := do
  match ← after? "COLLATE" path with
  | some collation => return .other (e.render ++ " COLLATE " ++ renderPath collation)
  | none => return e

end Rule

end BranchDistance.Sql
