import BranchDistance.Condition
import BranchDistance.Row.Scope

/-!
# Targets

A target is what a condition text asks for: the condition itself, the short names of tables in
force, and the query that yields candidate rows when none are given.
-/

namespace BranchDistance

/-- Inserts a name into an ascending list of distinct names. -/
def insertName (name : String) : List String → List String
  | [] => [name]
  | first :: rest =>
    if name < first then name :: first :: rest
    else if name = first then first :: rest
    else first :: insertName name rest

namespace Condition

/-- The tables that qualify a column of the condition, in ascending order. -/
def tables (c : Condition) : List String :=
  (c.columns.filterMap (·.table)).foldr insertName []

end Condition

/-- A condition to satisfy and where its candidate rows come from. -/
structure Target where
  /-- Absent for a statement that accepts every row. -/
  condition : Option Condition
  aliases : Aliases
  /-- Absent if the text names no table. -/
  probeQuery : Option String

namespace Target

/-- The query for all rows of the given sources; there is none without a source. -/
def queryOver (sources : List String) : Option String :=
  if sources.isEmpty then none else some ("SELECT * FROM " ++ String.intercalate ", " sources)

/-- The target of a condition that stands alone: its candidate rows come from the tables that
qualify its columns. -/
def ofCondition (c : Condition) : Target := ⟨some c, Aliases.empty, queryOver c.tables⟩

end Target

end BranchDistance
