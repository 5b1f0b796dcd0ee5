import BranchDistance.Evaluate.Arithmetic
import BranchDistance.Json
import BranchDistance.Row

/-!
# Rows from JSON text

A row is written as an object with its cells in an array; each cell is an object with its table,
which may be left out, its column and its value.  The names are taken as they are, and other
members are passed over.
-/

namespace BranchDistance

namespace Value

/-- Reads a value: null, a truth value, a number or a text.  A number is an integer if it is written
as one and fits into 64 binary digits, but for a negative zero. -/
def ofJson? (cs : List Char) : Option (Value × List Char) :=
  match Json.word? "null" cs, Json.word? "true" cs, Json.word? "false" cs with
  | some rest, _, _ => some (null, rest)
  | _, some rest, _ => some (bool true, rest)
  | _, _, some rest => some (bool false, rest)
  | none, none, none =>
    match Json.text? false cs with
    | some (s, rest) => some (text s, rest)
    | none => do
      let (n, rest) ← Json.numeral? cs
      match (n.integer?.filter fun i => !(n.negative && i == 0)).bind ofInt? with
      | some v => return (v, rest)
      | none => return (float (← n.float?), rest)

end Value

/-- The members of a cell that have been read. -/
structure CellMembers where
  table : Option (Option String) := none
  column : Option String := none
  value : Option Value := none

namespace CellMembers

/-- Reads the name of a table, which may be null. -/
def tableName? (cs : List Char) : Option (Option String × List Char) :=
  match Json.word? "null" cs with
  | some rest => some (none, rest)
  | none => (Json.text? false cs).map fun (s, rest) => (some s, rest)

/-- Reads one member of a cell.  None may occur twice. -/
def read? (members : CellMembers) (name : String) (cs : List Char) :
    Option (CellMembers × List Char) :=
  match name with
  | "table" =>
    if members.table.isSome then none
    else (tableName? cs).map fun (t, rest) => ({ members with table := some t }, rest)
  | "column" =>
    if members.column.isSome then none
    else (Json.text? false cs).map fun (s, rest) => ({ members with column := some s }, rest)
  | "value" =>
    if members.value.isSome then none
    else (Value.ofJson? cs).map fun (v, rest) => ({ members with value := some v }, rest)
  | _ => (Json.pass? (cs.length + 1) cs).map fun (_, rest) => (members, rest)

/-- The cell with the members that have been read, if none is missing. -/
def cell? (members : CellMembers) : Option Cell :=
  match members.column, members.value with
  | some column, some value => some ⟨members.table.join, column, value⟩
  | _, _ => none

end CellMembers

/-- Reads a cell. -/
def Cell.ofJson? (cs : List Char) : Option (Cell × List Char) := do
  let (members, rest) ← Json.object? CellMembers.read? {} cs
  return (← members.cell?, rest)

/-- Reads one member of a row.  The cells may not occur twice. -/
def Row.readMember? (cells : Option (List Cell)) (name : String) (cs : List Char) :
    Option (Option (List Cell) × List Char) :=
  if name = "cells" then
    if cells.isSome then none
    else do
      let (before, rest) ← Json.array? (fun before cs => do
        let (c, rest) ← Cell.ofJson? cs
        return (c :: before, rest)) [] cs
      return (some before.reverse, rest)
  else (Json.pass? (cs.length + 1) cs).map fun (_, rest) => (cells, rest)

/-- The row that a text is. -/
def Row.ofJson? (text : String) : Option Row := do
  let (cells, rest) ← Json.object? Row.readMember? none text.toList
  if (Json.skipSpaces rest).isEmpty then cells.map Row.mk else none

end BranchDistance
