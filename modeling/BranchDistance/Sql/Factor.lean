import BranchDistance.Sql.Operator

/-!
# Single sources of rows

A source of rows without what it is joined to.  A short name that is given to a table directly is
recorded with the last part of the table's name; short names of subqueries, of tables that are
turned into others and of joins in parentheses are not.
-/

namespace BranchDistance.Sql

/-- A short name, perhaps with names for the columns. -/
structure Alias where
  name : Name
  /-- The names for the columns in parentheses; empty if there are none. -/
  columns : String

/-- The written form of a short name. -/
def Alias.render (a : Alias) : String := words [a.name.render, a.columns]

/-- One source without what it is joined to. -/
structure Factor where
  /-- The written form up to the short name. -/
  before : String
  label : Option Alias
  /-- The written form after the short name. -/
  after : String
  /-- The last part of the name of a table. -/
  table : Option String
  /-- Whether this is a join in parentheses. -/
  isJoin : Bool

namespace Factor

/-- The written form. -/
def render (f : Factor) : String :=
  match f.label with
  | some a => f.before ++ " AS " ++ a.render ++ f.after
  | none => f.before ++ f.after

/-- The short name that is given to a table. -/
def bindings (f : Factor) : List (String × String) :=
  match f.label, f.table with
  | some a, some table => [(a.name.text, table)]
  | _, _ => []

/-- A source that is no table. -/
def other (before : String) (label : Option Alias) : Factor := ⟨before, label, "", none, false⟩

end Factor

namespace Rule

/-- A name after `AS`, or a name that is none of some keywords, if one is next. -/
def alias? (reserved : List String) : Rule (Option Name) := do
  if ← keyword? "AS" then return some (← name)
  else
    match ← ahead with
    | .word w :: _ =>
      if reserved.contains w.keyword then return none
      else
        skip 1
        return some (.ofWord w)
    | .text .plain content :: _ =>
      skip 1
      return some ⟨content, some '\''⟩
    | _ => return none

/-- The short name of a source, if one is next. -/
def tableAlias? : Rule (Option Alias) := do
  match ← alias? reservedForTables with
  | some n => return some ⟨n, ← nameList?⟩
  | none => return none

/-- A source that is no table, before its short name. -/
def labelled (before : String) : Rule Factor := return .other before (← tableAlias?)

/-- The arguments of a function of tables, after the opening parenthesis.  Settings come last. -/
def tableArguments : Rule String := do
  if ← symbol? ")" then return "()"
  else
    let args ← loop (fun before => do
      let settings ← settings?
      if settings ≠ "" then return .inr (settings :: before).reverse
      else
        let a ← argument
        if ← symbol? "," then return .inl (a :: before)
        else return .inr (a :: before).reverse) []
    symbol ")"
    return "(" ++ commas args ++ ")"

/-- The arguments of a function of tables without settings, after the opening parenthesis. -/
def plainTableArguments : Rule String := do
  let args ← listTo ")" argument
  symbol ")"
  return "(" ++ commas args ++ ")"

/-- The rows of a `VALUES` list, after its keyword.  If one of them is marked as a row, all are. -/
def values : Rule String := do
  let rows ← list do
    let marked ← keyword? "ROW"
    return (marked, "(" ++ renderList (← parenthesized (list expr)) ++ ")")
  let mark := if rows.any (·.1) then "ROW" else ""
  return "VALUES " ++ commas (rows.map fun row => mark ++ row.2)

/-- A subquery as a source, after the opening parenthesis. -/
def derived (start : String) : Rule Factor := do
  let q ← query
  symbol ")"
  labelled (start ++ "(" ++ q.text ++ ")")

/-- Hints for a table, if there are any. -/
def hints? : Rule String := do
  match ← ahead with
  | w :: .symbol "(" :: _ =>
    if w.keyword = "WITH" then
      skip 1
      return " WITH (" ++ renderList (← parenthesized (list expr)) ++ ")"
    else return ""
  | _ => return ""

/-- Whether the rows of a function are numbered, in its written form. -/
def ordinality? : Rule String := do
  if ← keywords? ["WITH", "ORDINALITY"] then return " WITH ORDINALITY" else return ""

end Rule

end BranchDistance.Sql
