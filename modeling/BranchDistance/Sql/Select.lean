import BranchDistance.Sql.Sources

/-!
# Selections

A `SELECT` with all its clauses.  The rule gives its written form, its condition and its sources.
-/

namespace BranchDistance.Sql

namespace Rule

/-- A column with a new name. -/
def renamedColumn : Rule String := do
  let n ← name
  discard (keyword? "AS")
  return n.render ++ " AS " ++ (← name).render

/-- An expression that takes the place of a column. -/
def replacement : Rule String := do
  let e ← expr
  let as ← keyword? "AS"
  return words [e.render, if as then "AS" else "", (← name).render]

/-- The columns of a star that are chosen or left out by a pattern or by name. -/
def chosen? : Rule String := do
  if ← keyword? "ILIKE" then
    match ← next with
    | .text .plain content => return "ILIKE " ++ (Literal.text .plain content).render
    | _ => mismatch
  else if ← keyword? "EXCLUDE" then
    if ← atSymbol "(" then return "EXCLUDE " ++ (← nameList)
    else return "EXCLUDE " ++ (← name).render
  else return ""

/-- The columns of a star that are left out, replaced and renamed. -/
def starOptions : Rule String := do
  let chosen ← chosen?
  let excepted ← if ← keyword? "EXCEPT" then do
      if ← atSymbol "(" then pure ("EXCEPT " ++ (← nameList))
      else pure ("EXCEPT (" ++ (← name).render ++ ")")
    else pure ""
  let replaced ← if ← keyword? "REPLACE" then do
      pure ("REPLACE (" ++ commas (← parenthesized (list replacement)) ++ ")")
    else pure ""
  let renamed ← if ← keyword? "RENAME" then do
      if ← atSymbol "(" then
        pure ("RENAME (" ++ commas (← parenthesized (list renamedColumn)) ++ ")")
      else pure ("RENAME " ++ (← renamedColumn))
    else pure ""
  return words [chosen, excepted, replaced, renamed]

/-- One selected column. -/
def selected : Rule String := do
  match ← item with
  | .star => return words ["*", ← starOptions]
  | .starOf path => return words [renderPath path ++ ".*", ← starOptions]
  | .expr e =>
    let isFrom := match e with
      | .path [⟨text, none⟩] => text.toLower == "from"
      | _ => false
    if isFrom then mismatch
    else match ← alias? reservedForColumns with
      | some n => return e.render ++ " AS " ++ n.render
      | none => return e.render

/-- What is said about equal rows, after `SELECT`. -/
def distinct? : Rule String := do
  let all ← keyword? "ALL"
  if ← keyword? "DISTINCT" then
    if all then mismatch
    else if ← keyword? "ON" then
      symbol "("
      if ← symbol? ")" then return "DISTINCT ON ()"
      else
        let es ← list expr
        symbol ")"
        return "DISTINCT ON (" ++ renderList es ++ ")"
    else return "DISTINCT"
  else return ""

/-- A limit at the start of a `SELECT`. -/
def top? : Rule String := do
  if ← keyword? "TOP" then
    let count ← if ← atSymbol "(" then do pure ("(" ++ (← parenthesized expr).render ++ ")")
      else do pure (toString (← natural))
    let percent ← if ← keyword? "PERCENT" then pure "PERCENT" else pure ""
    let ties ← if ← keywords? ["WITH", "TIES"] then pure "WITH TIES" else pure ""
    return words ["TOP", count, percent, ties]
  else return ""

/-- The table that a `SELECT` fills, if it does. -/
def into? : Rule String := do
  if ← keyword? "INTO" then
    let temporary := (← oneOf? ["TEMP", "TEMPORARY"]).getD ""
    let unlogged ← if ← keyword? "UNLOGGED" then pure "UNLOGGED" else pure ""
    let table ← if ← keyword? "TABLE" then pure "TABLE" else pure ""
    return words ["INTO", if temporary = "" then "" else "TEMPORARY", unlogged, table,
      renderPath (← path)]
  else return ""

/-- Expressions in parentheses that form one group, perhaps none. -/
def groupTuple : Rule (List Expr) := parenthesized (listTo ")" expr)

/-- The expressions that form one group: several in parentheses, or one alone. -/
def groupSet : Rule (List Expr) := do
  if ← atSymbol "(" then groupTuple else return [← expr]

/-- The written form of a group. -/
def renderGroup (alone : Bool) : List Expr → String
  | [e] => if alone then e.render else "(" ++ e.render ++ ")"
  | es => "(" ++ renderList es ++ ")"

/-- One key to group by. -/
def groupKey : Rule String := do
  if ← keywords? ["GROUPING", "SETS"] then
    let sets ← parenthesized (list groupTuple)
    return "GROUPING SETS (" ++ commas (sets.map (renderGroup false)) ++ ")"
  else match ← oneOf? ["CUBE", "ROLLUP"] with
    | some k =>
      let sets ← parenthesized (list groupSet)
      return k ++ " (" ++ commas (sets.map (renderGroup true)) ++ ")"
    | none =>
      match ← ahead with
      | .symbol "(" :: .symbol ")" :: _ => skip 2; return "()"
      | _ => return (← expr).render

/-- The grouping of a `SELECT`, if there is one. -/
def group? : Rule String := do
  if ← keywords? ["GROUP", "BY"] then
    let keys ← if ← keyword? "ALL" then pure "ALL" else do
      pure (commas (← list groupKey))
    let totals ← loop (fun before => do
      if ← keyword? "WITH" then
        return .inl (before ++ " WITH " ++ (← oneOf ["ROLLUP", "CUBE", "TOTALS"]))
      else return .inr before) ""
    return "GROUP BY " ++ keys ++ totals
  else return ""

/-- A list of expressions after a keyword and `BY`, if there is one. -/
def listBy? (k : String) : Rule String := do
  if ← keywords? [k, "BY"] then return k ++ " BY " ++ renderList (← list expr) else return ""

/-- An expression after a keyword, if there is one, in its written form. -/
def clause? (k : String) : Rule String := do
  if ← keyword? k then return k ++ " " ++ (← expr).render else return ""

/-- The named windows of a `SELECT`, if there are any. -/
def windows? : Rule String := do
  if ← keyword? "WINDOW" then
    let ws ← list do
      let n ← name
      keyword "AS"
      return n.render ++ " AS " ++ (← window)
    return "WINDOW " ++ commas ws
  else return ""

/-- The condition on windows and the named windows of a `SELECT`, in either order. -/
def qualified? : Rule String := do
  let before ← windows?
  let condition ← clause? "QUALIFY"
  let after ← if before = "" ∧ condition ≠ "" then windows? else pure ""
  return words [before, condition, after]

/-- Which row of a hierarchy is prior to which, after its keywords. -/
def connection : Rule String := return "CONNECT BY " ++ renderList (← hierarchically (list expr))

/-- The rows at which a hierarchy starts, after its keywords. -/
def start : Rule String := return "START WITH " ++ (← expr).render

/-- The hierarchy of the rows, if there is one. -/
def hierarchy? : Rule String := do
  if ← keywords? ["CONNECT", "BY"] then
    let connection ← connection
    keywords ["START", "WITH"]
    return words [← start, connection]
  else if ← keyword? "START" then
    keyword "WITH"
    let start ← start
    keywords ["CONNECT", "BY"]
    return words [start, ← connection]
  else return ""

/-- The words that are no name of a column made from a row. -/
def reservedForViews : List String := ["WHERE", "GROUP", "CLUSTER", "HAVING", "LATERAL"]

/-- The rows that an expression makes from each row, as often as is said. -/
def lateralViews : Rule String := do
  let views ← many do
    if ← keywords? ["LATERAL", "VIEW"] then
      let outer ← if ← keyword? "OUTER" then pure "OUTER" else pure ""
      let e ← expr
      let n ← path
      let columns ← list (alias? reservedForViews)
      let columns := commas ((columns.filterMap id).map Name.render)
      return some (words ["LATERAL VIEW", outer, e.render, renderPath n,
        if columns = "" then "" else "AS " ++ columns])
    else return none
  return words views

/-- The sources after `FROM`, if there are any. -/
def sources? : Rule (List Source) := do
  if ← keyword? "FROM" then list source else return []

/-- The written form of sources after `FROM`. -/
def renderSources (sources : List Source) : String :=
  if sources.isEmpty then "" else "FROM " ++ commas (sources.map (·.text))

/-- The condition after `WHERE`, if there is one. -/
def where? : Rule (Option Expr) := after? "WHERE" expr

/-- The written form of a condition after `WHERE`. -/
def renderWhere (selection : Option Expr) : String :=
  match selection with
  | some e => "WHERE " ++ e.render
  | none => ""

/-- A body of rows with its written form. -/
abbrev Written := String × Body

/-- A `SELECT`, after its keyword. -/
def select : Rule Written := do
  let distinct ← distinct?
  let top ← top?
  let columns ← list selected
  let into ← into?
  let sources ← sources?
  let views ← lateralViews
  let prewhere ← clause? "PREWHERE"
  let selection ← where?
  let group ← group?
  let cluster ← listBy? "CLUSTER"
  let distribute ← listBy? "DISTRIBUTE"
  let sort ← listBy? "SORT"
  let having ← clause? "HAVING"
  let qualify ← qualified?
  let hierarchy ← hierarchy?
  return (words ["SELECT", distinct, top, commas columns, into, renderSources sources, views,
    prewhere, renderWhere selection, group, cluster, distribute, sort, having, qualify, hierarchy],
    .select selection sources)

end Rule

end BranchDistance.Sql
