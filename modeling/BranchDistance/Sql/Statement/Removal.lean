import BranchDistance.Sql.Statement.Basic

/-!
# Removals

The statements that remove tables, routines and all else that a database holds.
-/

namespace BranchDistance.Sql

namespace Rule

/-- Routines that are removed, after their keyword. -/
def dropRoutines : Rule Unit := do
  ifExists
  discard (list signature)
  dependents?

/-- Something of a table that is removed, with the name of the table. -/
def dropOfTable (name : Rule Unit) : Rule Unit := do
  ifExists
  name
  keyword "ON"
  discard path
  dependents?

/-- A secret that is removed, after `SECRET`. -/
def dropSecret : Rule Unit := do
  ifExists
  discard name
  if ← keyword? "FROM" then skip 1

/-- Things of the given kind that are removed.  A role cannot take along what depends on it. -/
def dropNamed (kind : String) : Rule Unit := do
  ifExists
  paths
  let cascade ← keyword? "CASCADE"
  let restrict ← keyword? "RESTRICT"
  let purge ← keyword? "PURGE"
  if cascade && restrict then mismatch
  else if kind = "ROLE" ∧ (cascade || restrict || purge) then mismatch

/-- Something that is removed, after `DROP`. -/
def removal : Rule Unit := do
  pass ["TEMPORARY"]
  match ← oneOf ["TABLE", "VIEW", "INDEX", "ROLE", "SCHEMA", "DATABASE", "SEQUENCE", "STAGE",
    "TYPE", "FUNCTION", "PROCEDURE", "POLICY", "SECRET", "TRIGGER"] with
  | "FUNCTION" => dropRoutines
  | "PROCEDURE" => dropRoutines
  | "POLICY" => dropOfTable (discard name)
  | "TRIGGER" => dropOfTable (discard path)
  | "SECRET" => dropSecret
  | kind => dropNamed kind

end Rule

end BranchDistance.Sql
