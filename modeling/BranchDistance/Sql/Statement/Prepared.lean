import BranchDistance.Sql.Statement.Basic

/-!
# Prepared statements and cursors

The statements that keep another statement or the rows of a query, and that use what is kept.
-/

namespace BranchDistance.Sql

namespace Rule

/-- A statement that is kept under a name, after `PREPARE`. -/
def prepare : Rule Unit := do
  discard name
  if ← atSymbol "(" then discard (parenthesized (list typeName))
  keyword "AS"
  discard nestedStatement

/-- The use of a kept statement, after `EXECUTE`. -/
def execute : Rule Unit := do
  discard name
  if ← atSymbol "(" then tuple
  discard (after? "USING" (list expr))

/-- The end of a kept statement, after `DEALLOCATE`. -/
def deallocate : Rule Unit := do
  pass ["PREPARE"]
  discard name

/-- A procedure that is called, after `CALL`. -/
def callProcedure : Rule Unit := do
  let path ← path
  if ← symbol? "(" then discard (call path)

/-- A cursor over the rows of a query, after `DECLARE`. -/
def declareCursor : Rule Unit := do
  discard name
  pass ["BINARY"]
  pass ["INSENSITIVE", "ASENSITIVE"]
  unless ← keyword? "SCROLL" do discard (keywords? ["NO", "SCROLL"])
  keyword "CURSOR"
  match ← oneOf? ["WITH", "WITHOUT"] with
  | some _ => keyword "HOLD"
  | none => pure ()
  keyword "FOR"
  discard query

/-- How far and in which direction a cursor goes. -/
def cursorMove : Rule Unit := do
  match ← oneOf? ["NEXT", "PRIOR", "FIRST", "LAST", "ALL", "ABSOLUTE", "RELATIVE", "FORWARD",
    "BACKWARD"] with
  | some k =>
    if k = "ABSOLUTE" ∨ k = "RELATIVE" then discard numeral
    else if k = "FORWARD" ∨ k = "BACKWARD" then
      unless ← keyword? "ALL" do discard numeral
  | none => discard numeral

/-- Rows that are taken from a cursor, after `FETCH`. -/
def fetchRows : Rule Unit := do
  cursorMove
  discard (oneOf ["FROM", "IN"])
  discard name
  discard (after? "INTO" path)

/-- The end of a cursor, after `CLOSE`. -/
def closeCursor : Rule Unit := do
  unless ← keyword? "ALL" do discard name

end Rule

end BranchDistance.Sql
