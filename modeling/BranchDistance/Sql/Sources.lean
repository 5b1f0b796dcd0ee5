import BranchDistance.Sql.JsonTable
import BranchDistance.Sql.Pivot
import BranchDistance.Sql.RowPattern

/-!
# Sources of rows

The tables, subqueries and joins that a statement takes its rows from.
-/

namespace BranchDistance.Sql

/-- A source and the written forms and short names of what it is joined to. -/
structure Joined where
  first : Factor
  joins : List Source

/-- The whole as one source. -/
def Joined.source (j : Joined) : Source :=
  ⟨j.first.render ++ String.join (j.joins.map (·.text)),
    j.first.bindings ++ j.joins.flatMap (·.bindings)⟩

namespace Rule

/-- A table by name, or a function of tables.  Its parts are written right after its name. -/
def table : Rule Factor := do
  let path ← path
  let parts ← if ← keyword? "PARTITION" then pure ("PARTITION " ++ (← nameList)) else pure ""
  let args ← if ← symbol? "(" then tableArguments else pure ""
  let ordinality ← ordinality?
  let label ← tableAlias?
  let f ← turned ⟨renderPath path ++ parts ++ args ++ ordinality, label, ← hints?,
    path.getLast?.map (·.text), false⟩
  if ← keyword? "MATCH_RECOGNIZE" then matchedRows f else return f

/-- The rows of some arrays, after the keyword.  The positions in the arrays may be numbered; a
`WITH` that does not say so is passed over. -/
def unnested : Rule Factor := do
  let arrays ← parenthesized (list expr)
  let ordinality ← ordinality?
  let label ← tableAlias?
  let offset ← if ← keyword? "WITH" then do
      if ← keyword? "OFFSET" then
        match ← alias? reservedForColumns with
        | some n => pure (" WITH OFFSET AS " ++ n.render)
        | none => pure " WITH OFFSET"
      else pure ""
    else pure ""
  return ⟨"UNNEST(" ++ renderList arrays ++ ")" ++ ordinality, label, offset, none, false⟩

/-- A source in parentheses, after the opening one: a subquery, or other sources that are joined.  A
single source keeps no parentheses, and a short name after them counts as its own. -/
def groupedFactor (joined : Rule Joined) : Rule Factor := do
  match ← attempt (derived "") with
  | some f => turned f
  | none =>
    let inner ← joined
    symbol ")"
    let label ← tableAlias?
    if !inner.joins.isEmpty ∨ inner.first.isJoin then
      return ⟨"(" ++ inner.source.text ++ ")", label, "", none, true⟩
    else
      match label, inner.first.label with
      | none, _ => return inner.first
      | some a, none => return { inner.first with label := some a }
      | some _, some _ => mismatch

/-- A subquery or a function of tables that may use the sources before it, after the keyword. -/
def lateral : Rule Factor := do
  if ← symbol? "(" then derived "LATERAL "
  else
    let path ← path
    symbol "("
    labelled ("LATERAL " ++ renderPath path ++ (← plainTableArguments))

/-- One source without what it is joined to. -/
def factor (joined : Rule Joined) : Rule Factor := do
  if ← keyword? "LATERAL" then lateral
  else if ← keyword? "TABLE" then
    labelled ("TABLE(" ++ (← parenthesized expr).render ++ ")")
  else if ← symbol? "(" then groupedFactor joined
  else match ← ahead with
    | t :: .symbol "(" :: _ =>
      match t.keyword with
      | "VALUES" => skip 1; labelled ("(" ++ (← values) ++ ")")
      | "UNNEST" => skip 1; unnested
      | "JSON_TABLE" => skip 2; jsonTable
      | _ => table
    | t :: _ => if t.keyword = "UNNEST" then mismatch else table
    | [] => mismatch

/-- The condition of a join. -/
def joinCondition (natural : Bool) : Rule String := do
  if natural then return ""
  else if ← keyword? "ON" then return " ON " ++ (← expr).render
  else if ← keyword? "USING" then return " USING" ++ (← nameList)
  else return ""

/-- The kind of a join that has a condition, if one is next, in its written form. -/
def joinKind? : Rule (Option String) := do
  match ← ahead with
  | t :: _ =>
    match t.keyword with
    | "JOIN" => skip 1; return some "JOIN"
    | "INNER" => skip 1; keyword "JOIN"; return some "JOIN"
    | "FULL" =>
      skip 1
      discard (keyword? "OUTER")
      keyword "JOIN"
      return some "FULL JOIN"
    | "LEFT" | "RIGHT" =>
      skip 1
      match ← oneOf ["OUTER", "SEMI", "ANTI", "JOIN"] with
      | "OUTER" => keyword "JOIN"; return some (t.keyword ++ " JOIN")
      | "JOIN" => return some (t.keyword ++ " JOIN")
      | kind => keyword "JOIN"; return some (t.keyword ++ " " ++ kind ++ " JOIN")
    | "OUTER" => mismatch
    | _ => return none
  | [] => return none

/-- One join, if one is next. -/
def join? (factor : Rule Factor) : Rule (Option Source) := do
  let start := if ← keyword? "GLOBAL" then " GLOBAL " else " "
  if ← keyword? "CROSS" then
    let kind ← oneOf ["JOIN", "APPLY"]
    let f ← factor
    return some ⟨start ++ "CROSS " ++ kind ++ " " ++ f.render, f.bindings⟩
  else if ← keywords? ["OUTER", "APPLY"] then
    let f ← factor
    return some ⟨start ++ "OUTER APPLY " ++ f.render, f.bindings⟩
  else if ← keyword? "ASOF" then
    keyword "JOIN"
    let f ← factor
    keyword "MATCH_CONDITION"
    let matched ← parenthesized expr
    let condition ← joinCondition false
    return some ⟨start ++ "ASOF JOIN " ++ f.render ++ " MATCH_CONDITION (" ++ matched.render ++
      ")" ++ condition, f.bindings⟩
  else
    let natural ← keyword? "NATURAL"
    match ← joinKind? with
    | some kind =>
      let f ← factor
      let condition ← joinCondition natural
      return some ⟨start ++ (if natural then "NATURAL " else "") ++ kind ++ " " ++ f.render ++
        condition, f.bindings⟩
    | none => if natural then mismatch else return none

/-- A source and all that it is joined to. -/
def joined : Rule Joined :=
  nest fun joined => do
    let first ← factor joined
    loop (fun before => do
      match ← join? (factor joined) with
      | some j => return .inl (j :: before)
      | none => return .inr ⟨first, before.reverse⟩) []

/-- A source and all that it is joined to, as one. -/
def source : Rule Source := return (← joined).source

end Rule

end BranchDistance.Sql
