import BranchDistance.Column
import BranchDistance.Row

/-!
# The scope of a condition

A condition is read over one row, with short names for tables that its statement may have
introduced.
-/

namespace BranchDistance

/-- Short names of tables and the tables that they stand for; both in folded form. -/
structure Aliases where
  entries : List (String × String)
  deriving DecidableEq

namespace Aliases

/-- No short names. -/
def empty : Aliases := ⟨[]⟩

/-- Sets what a short name stands for. -/
def put (name table : String) : List (String × String) → List (String × String)
  | [] => [(name, table)]
  | entry :: rest =>
    if entry.1 = name then (name, table) :: rest else entry :: put name table rest

/-- Introduces a short name; a later use of the same one replaces the earlier. -/
def insert (aliases : Aliases) (name table : String) : Aliases :=
  ⟨put name table aliases.entries⟩

/-- The table that a short name stands for. -/
def get? (aliases : Aliases) (name : String) : Option String := aliases.entries.lookup name

end Aliases

/-- A row and the short names in force. -/
structure Scope where
  row : Row
  aliases : Aliases := Aliases.empty

namespace Scope

/-- The value of a column.  A qualifier is read as a short name first and then as a table. -/
def get? (scope : Scope) (column : Column) : Option Value :=
  match column.table with
  | none => scope.row.get? none column.name
  | some qualifier =>
    match (scope.aliases.get? qualifier).bind fun table =>
        scope.row.get? (some table) column.name with
    | some value => some value
    | none => scope.row.get? (some qualifier) column.name

/-- Whether the row has the column. -/
def includes (scope : Scope) (column : Column) : Bool := (scope.get? column).isSome

end Scope

end BranchDistance
