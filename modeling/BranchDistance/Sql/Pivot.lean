import BranchDistance.Sql.Factor

/-!
# Turned tables

A table may be turned: the values of a column become columns with aggregates of another one, or
columns become values.
-/

namespace BranchDistance.Sql

namespace Rule

/-- An expression that may have a name after `AS`. -/
def named (p : Rule String) : Rule String := do
  let text ← p
  return words [text, after "AS" ((← after? "AS" name).map Name.render)]

/-- A call of a function by a name of one part, which loses its quotes. -/
def aggregate : Rule String := do
  match ← next with
  | .word w =>
    symbol "("
    call [⟨w.text, none⟩]
  | _ => mismatch

/-- The values that become columns. -/
def pivotValues : Rule String := do
  if ← keyword? "ANY" then return words ["ANY", ← order?]
  else if ← atQuery then return (← query).text
  else return commas (← list (named do return (← expr).render))

/-- The value of a missing cell, if it is given. -/
def missing? : Rule String := do
  if ← keywords? ["DEFAULT", "ON", "NULL"] then
    return " DEFAULT ON NULL (" ++ (← parenthesized expr).render ++ ")"
  else return ""

/-- A table whose values become columns, after its keyword. -/
def pivot (f : Factor) : Rule Factor := do
  let text ← parenthesized do
    let aggregates ← list (named aggregate)
    keyword "FOR"
    let column ← path
    keyword "IN"
    let values ← parenthesized pivotValues
    return commas aggregates ++ " FOR " ++ renderPath column ++ " IN (" ++ values ++ ")" ++
      (← missing?)
  labelled (f.render ++ " PIVOT(" ++ text ++ ")")

/-- A table whose columns become values, after its keyword. -/
def unpivot (f : Factor) : Rule Factor := do
  let text ← parenthesized do
    let value ← name
    keyword "FOR"
    let column ← name
    keyword "IN"
    return value.render ++ " FOR " ++ column.render ++ " IN " ++ (← nameList)
  labelled (f.render ++ " UNPIVOT(" ++ text ++ ")")

/-- A table turned as often as is said. -/
def turned (f : Factor) : Rule Factor :=
  loop (fun f => do
    if ← keyword? "PIVOT" then return .inl (← pivot f)
    else if ← keyword? "UNPIVOT" then return .inl (← unpivot f)
    else return .inr f) f

end Rule

end BranchDistance.Sql
