import BranchDistance.Sql.Statement.Alteration
import BranchDistance.Sql.Statement.Creation
import BranchDistance.Sql.Statement.Merge
import BranchDistance.Sql.Statement.Prepared
import BranchDistance.Sql.Statement.Privilege
import BranchDistance.Sql.Statement.Removal
import BranchDistance.Sql.Statement.Session
import BranchDistance.Sql.Statement.Transfer
import BranchDistance.Sql.Statement.Upkeep

/-!
# Statements

All statements by their first words.  Of a statement only the condition and the sources of its rows
are kept.
-/

namespace BranchDistance.Sql

namespace Rule

/-- A `DELETE`, after its keyword. -/
def delete : Rule Statement := do
  discard (keyword? "FROM")
  let sources ← list source
  discard (after? "USING" (list source))
  let selection ← where?
  discard returning?
  discard order?
  discard (after? "LIMIT" limit)
  return .onRows selection sources

/-- One option of a description. -/
def descriptionOption : Rule Unit := do
  discard name
  unless (← atSymbol ",") || (← atSymbol ")") do discard expr

/-- How something is described: options in parentheses, or words. -/
def manner (hasOptions : Bool) : Rule Unit := do
  if hasOptions && (← atSymbol "(") then discard (parenthesized (list descriptionOption))
  else
    pass ["ANALYZE"]
    pass ["VERBOSE"]
    discard (after? "FORMAT" (oneOf ["TEXT", "GRAPHVIZ", "JSON"]))

/-- A description, after its keyword: of another statement that is no description, or of a table. -/
def description (hasOptions : Bool) : Rule Unit := do
  manner hasOptions
  match ← attempt nestedStatement with
  | some .description => mismatch
  | some _ => return ()
  | none =>
    pass ["EXTENDED", "FORMATTED"]
    discard path

/-- The statements that are not about the rows of a table, by their first words: the rules for what
follows. -/
def otherStatements : List (String × Rule Unit) := [
  ("ALTER", alteration), ("ANALYZE", analyze), ("ASSERT", assertion), ("ATTACH", attach),
  ("BEGIN", beginTransaction), ("CACHE", cache), ("CALL", callProcedure), ("CLOSE", closeCursor),
  ("COMMENT", remark), ("COMMIT", endTransaction), ("COPY", copy), ("CREATE", creation),
  ("DEALLOCATE", deallocate), ("DECLARE", declareCursor), ("DETACH", detach),
  ("DISCARD", discarded), ("DROP", removal), ("END", endTransaction), ("EXECUTE", execute),
  ("FETCH", fetchRows), ("FLUSH", flush), ("GRANT", grant), ("INSERT", discard insert),
  ("INSTALL", discard name), ("KILL", kill), ("LOAD", discard name), ("MERGE", merge),
  ("MSCK", repair), ("OPTIMIZE", optimize), ("PRAGMA", pragma), ("PREPARE", prepare),
  ("RELEASE", release), ("REPLACE", discard insert), ("REVOKE", revoke), ("ROLLBACK", rollback),
  ("SAVEPOINT", discard name), ("SET", setSession), ("SHOW", showSession),
  ("START", startTransaction), ("TRUNCATE", truncate), ("UNCACHE", uncache), ("UNLOAD", unload),
  ("USE", discard path)]

/-- One statement. -/
def statement : Rule Statement := do
  match ← ahead with
  | .symbol "(" :: _ => return .ofQuery (← query)
  | t :: _ =>
    match t.keyword with
    | "SELECT" | "WITH" | "VALUES" => return .ofQuery (← query)
    | "UPDATE" =>
      skip 1
      let u ← update
      return .onRows u.selection [u.table]
    | "DELETE" =>
      skip 1
      delete
    | "EXPLAIN" =>
      skip 1
      description true
      return .description
    | "DESC" | "DESCRIBE" =>
      skip 1
      description false
      return .description
    | k =>
      match otherStatements.lookup k with
      | some rest =>
        skip 1
        rest
        return .other
      | none => mismatch
  | [] => mismatch

end Rule

end BranchDistance.Sql
