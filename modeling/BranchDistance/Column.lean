import BranchDistance.Text.Fold

/-!
# Column names

A column is named by itself or together with its table.  Names are compared in folded form.
-/

namespace BranchDistance

/-- The name of a column, with the name of its table if it is qualified. -/
structure Column where
  table : Option String
  name : String
  deriving DecidableEq

namespace Column

/-- The column with the given names, in folded form. -/
def named (table : Option String) (name : String) : Column :=
  ⟨table.map Text.casefold, Text.casefold name⟩

/-- The written form: the table, a point and the name, or the name alone. -/
def text (c : Column) : String :=
  match c.table with
  | some table => table ++ "." ++ c.name
  | none => c.name

instance : ToString Column := ⟨text⟩

/-- The order of two table names; no name comes before every name. -/
def compareTables : Option String → Option String → Ordering
  | none, none => .eq
  | none, some _ => .lt
  | some _, none => .gt
  | some a, some b => compare a b

/-- Columns are ordered by table and then by name. -/
instance : Ord Column := ⟨fun a b => (compareTables a.table b.table).then (compare a.name b.name)⟩

end Column

end BranchDistance
