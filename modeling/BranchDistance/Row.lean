import BranchDistance.Text.Fold
import BranchDistance.Value

/-!
# Rows

A row is the ordered list of its cells.  A cell is known by its table, if it has one, and its
column; inserting a value under known names replaces the old one in place.
-/

namespace BranchDistance

/-- One value of a row.  A computed value has no table. -/
structure Cell where
  table : Option String
  column : String
  value : Value
  deriving DecidableEq

/-- The cells of one candidate row, in the order of their first insertion. -/
structure Row where
  cells : List Cell
  deriving DecidableEq

namespace Row

/-- The row without cells. -/
def empty : Row := ⟨[]⟩

/-- Whether a cell has the given names. -/
def hasNames (table : Option String) (column : String) (cell : Cell) : Bool :=
  cell.table == table && cell.column == column

/-- Puts a cell in the place of the first one of the same names, or at the end. -/
def place (cell : Cell) : List Cell → List Cell
  | [] => [cell]
  | first :: rest =>
    if hasNames cell.table cell.column first then cell :: rest else first :: place cell rest

/-- Sets the value under the folded forms of two names. -/
def insert (row : Row) (table : Option String) (column : String) (value : Value) : Row :=
  ⟨place ⟨table.map Text.casefold, Text.casefold column, value⟩ row.cells⟩

/-- The row that a sequence of insertions leaves. -/
def ofCells (cells : List Cell) : Row :=
  cells.foldl (fun row cell => row.insert cell.table cell.column cell.value) empty

/-- The number of cells. -/
def size (row : Row) : Nat := row.cells.length

/-- The value of the first cell, which is the one that a subquery selects. -/
def first? (row : Row) : Option Value := row.cells.head?.map (·.value)

/-- Whether a cell lies in the given table. -/
def hasTable (row : Row) (table : String) : Bool := row.cells.any (·.table == some table)

/-- Whether a cell answers a request for a column, whose table may be left open.  A cell without a
table answers for every table. -/
def answers (table : Option String) (column : String) (cell : Cell) : Bool :=
  cell.column == column &&
    match table, cell.table with
    | some wanted, some actual => wanted == actual
    | _, _ => true

/-- The value of the first cell that answers a request. -/
def get? (row : Row) (table : Option String) (column : String) : Option Value :=
  (row.cells.find? (answers table column)).map (·.value)

end Row

end BranchDistance
