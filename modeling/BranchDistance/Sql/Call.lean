import BranchDistance.Sql.Interval

/-!
# Function calls

Calls of functions with their arguments and clauses.  A call is never part of a condition, so these
rules give the written form of what they read.
-/

namespace BranchDistance.Sql

/-- What may stand in a list of selected columns or of arguments. -/
inductive Item where
  /-- All columns. -/
  | star
  /-- All columns of a table. -/
  | starOf (path : List Name)
  | expr (e : Expr)

/-- The written form of an item. -/
def Item.render : Item → String
  | star => "*"
  | starOf path => renderPath path ++ ".*"
  | expr e => e.render

/-- The path before a point and a star, for tokens after its first name: `some (some _)` with the
number of tokens if there is one, `none` if a point is followed by neither a name nor a star. -/
def starredPath (before : List Name) (count : Nat) : List Token → Option (Option (List Name × Nat))
  | .symbol "." :: .word w :: rest => starredPath (.ofWord w :: before) (count + 2) rest
  | .symbol "." :: .text .plain content :: rest =>
    starredPath (⟨content, some '\''⟩ :: before) (count + 2) rest
  | .symbol "." :: .symbol "*" :: _ => some (some (before.reverse, count + 2))
  | .symbol "." :: _ => none
  | _ => some none

namespace Rule

/-- An item: a star, a path with a star, or an expression. -/
def item : Rule Item := do
  let start : Option (Name × List Token) := match ← ahead with
    | .word w :: rest => some (.ofWord w, rest)
    | .text .plain content :: rest => some (⟨content, some '\''⟩, rest)
    | _ => none
  match start with
  | some (first, rest) =>
    match starredPath [first] 1 rest with
    | some (some (path, count)) => skip count; return .starOf path
    | some none => return .expr (← expr)
    | none => mismatch
  | none => if ← symbol? "*" then return .star else return .expr (← expr)

/-- How gaps between the values of a key are filled, if they are. -/
def fill? : Rule String := do
  if ← keywords? ["WITH", "FILL"] then
    let first ← after? "FROM" expr
    let last ← after? "TO" expr
    let step ← after? "STEP" expr
    return words ["WITH FILL", after "FROM" (first.map Expr.render),
      after "TO" (last.map Expr.render), after "STEP" (step.map Expr.render)]
  else return ""

/-- An expression to sort by, with its direction. -/
def sortKey : Rule String := do
  let e ← expr
  let direction ← oneOf? ["ASC", "DESC"]
  let nulls ← if ← keywords? ["NULLS", "FIRST"] then pure "NULLS FIRST"
    else if ← keywords? ["NULLS", "LAST"] then pure "NULLS LAST"
    else pure ""
  return words [e.render, direction.getD "", nulls, ← fill?]

/-- Several expressions to sort by. -/
def sortKeys : Rule String := return commas (← list sortKey)

/-- The order of some rows, if it is given. -/
def order? : Rule String := do
  if ← keywords? ["ORDER", "BY"] then return "ORDER BY " ++ (← sortKeys) else return ""

/-- The parts by which some rows are taken together, if they are. -/
def partition? : Rule String := do
  if ← keywords? ["PARTITION", "BY"] then return "PARTITION BY " ++ renderList (← list expr)
  else return ""

/-- How null arguments are treated, if that is said. -/
def nullTreatment? : Rule String := do
  match ← oneOf? ["RESPECT", "IGNORE"] with
  | some k => keyword "NULLS"; return k ++ " NULLS"
  | none => return ""

/-- One argument, which may be named. -/
def argument : Rule String := do
  match ← ahead with
  | _ :: .symbol "=>" :: _ =>
    let n ← name
    skip 1
    return n.render ++ " => " ++ (← item).render
  | _ :: .symbol ":=" :: _ =>
    let n ← name
    skip 1
    return n.render ++ " := " ++ (← expr).render
  | _ => return (← item).render

/-- A bound of an aggregate, if there is one. -/
def having? : Rule String := do
  if ← keyword? "HAVING" then
    let bound ← oneOf ["MIN", "MAX"]
    return "HAVING " ++ bound ++ " " ++ (← expr).render
  else return ""

/-- The separator of an aggregate, if there is one. -/
def separator? : Rule String := do
  if ← keyword? "SEPARATOR" then return "SEPARATOR " ++ (← value) else return ""

/-- What a list of values that grows too long becomes, if that is said. -/
def overflow? : Rule String := do
  if ← keywords? ["ON", "OVERFLOW"] then
    if ← keyword? "ERROR" then return "ON OVERFLOW ERROR"
    else
      keyword "TRUNCATE"
      let filler ← match ← ahead with
        | .text style _ :: _ =>
          if isFiller style then pure (← expr).render else mismatch
        | _ => pure ""
      let count ← oneOf ["WITH", "WITHOUT"]
      keyword "COUNT"
      return words ["ON OVERFLOW TRUNCATE", filler, count, "COUNT"]
  else return ""
where
  isFiller : TextStyle → Bool
    | .plain => true
    | .national => true
    | .escaped => true
    | .unicode => true
    | .hexadecimal => true
    | _ => false

/-- The arguments of a call, after the opening parenthesis, and whether they say how nulls are
treated. -/
def arguments : Rule (String × Bool) := do
  if ← symbol? ")" then return ("()", false)
  else
    let all ← keyword? "ALL"
    let distinct ← keyword? "DISTINCT"
    if all && distinct then mismatch
    else
      let args ← list argument
      let nulls ← nullTreatment?
      let order ← order?
      let limit ← after? "LIMIT" expr
      let having ← having?
      let separator ← separator?
      let overflow ← overflow?
      symbol ")"
      return ("(" ++ words [if all then "ALL" else if distinct then "DISTINCT" else "", commas args,
        nulls, order, after "LIMIT" (limit.map Expr.render), having, separator, overflow] ++ ")",
        nulls ≠ "")

/-- The distance of a window frame's end from the current row; a text is read as an interval. -/
def frameDistance : Rule String := do
  if ← keyword? "UNBOUNDED" then return "UNBOUNDED"
  else match ← ahead with
    | .text .plain content :: _ =>
      skip 1
      return (← intervalOf (← collated (.literal (.text .plain content)))).render
    | _ => return (← expr).render

/-- One end of a window frame. -/
def frameBound : Rule String := do
  if ← keywords? ["CURRENT", "ROW"] then return "CURRENT ROW"
  else
    let distance ← frameDistance
    return distance ++ " " ++ (← oneOf ["PRECEDING", "FOLLOWING"])

/-- The frame of a window. -/
def frame : Rule String := do
  let unit ← oneOf ["ROWS", "RANGE", "GROUPS"]
  if ← keyword? "BETWEEN" then
    let first ← frameBound
    keyword "AND"
    return unit ++ " BETWEEN " ++ first ++ " AND " ++ (← frameBound)
  else return unit ++ " " ++ (← frameBound)

/-- The window of a call, after `OVER`. -/
def window : Rule String := do
  if ← symbol? "(" then
    let base ← match ← ahead with
      | .word w :: _ =>
        if Sql.keywords.contains w.keyword then pure "" else do pure (← name).render
      | _ => pure ""
    let parts ← partition?
    let order ← order?
    if ← symbol? ")" then return "(" ++ words [base, parts, order] ++ ")"
    else
      let frame ← frame
      symbol ")"
      return "(" ++ words [base, parts, order, frame] ++ ")"
  else return (← name).render

/-- The order of the rows that a call takes together, if it is given. -/
def withinGroup? : Rule String := do
  if ← keywords? ["WITHIN", "GROUP"] then
    let keys ← parenthesized do
      keywords ["ORDER", "BY"]
      sortKeys
    return "WITHIN GROUP (ORDER BY " ++ keys ++ ")"
  else return ""

/-- A call of the function with a path, after the opening parenthesis.  How nulls are treated is
said once, in the arguments or after them. -/
def call (path : List Name) : Rule String := do
  let first ← arguments
  let second ← if ← symbol? "(" then some <$> arguments else pure none
  let group ← withinGroup?
  let nulls ← if (second.getD first).2 then pure "" else nullTreatment?
  let windowed ← if ← keyword? "OVER" then pure ("OVER " ++ (← window)) else pure ""
  return words [renderPath path ++ first.1 ++ (second.map (·.1)).getD "", group, nulls, windowed]

/-- A function of time, which may stand without arguments. -/
def timeCall (path : List Name) : Rule String := do
  if ← symbol? "(" then return renderPath path ++ (← arguments).1 else return renderPath path

end Rule

end BranchDistance.Sql
