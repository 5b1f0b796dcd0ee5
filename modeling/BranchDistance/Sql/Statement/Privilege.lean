import BranchDistance.Sql.Statement.Basic

/-!
# Privileges

The statements that give and take what users may do.
-/

namespace BranchDistance.Sql

/-- What a user may do with an object, and which of it may be confined to columns. -/
def privileges : List (String × Bool) := [
  ("CONNECT", false), ("CREATE", false), ("DELETE", false), ("EXECUTE", false), ("INSERT", true),
  ("REFERENCES", true), ("SELECT", true), ("TEMPORARY", false), ("TRIGGER", false),
  ("TRUNCATE", false), ("UPDATE", true), ("USAGE", false)]

namespace Rule

/-- One privilege. -/
def privilege : Rule Unit := do
  match privileges.lookup (← oneOf (privileges.map (·.1))) with
  | some true => discard nameList?
  | _ => return ()

/-- Some privileges and the objects that they are about. -/
def privilegesOn : Rule Unit := do
  if ← keyword? "ALL" then pass ["PRIVILEGES"] else discard (list privilege)
  keyword "ON"
  if ← keywords? ["ALL", "TABLES", "IN", "SCHEMA"] then paths
  else if ← keywords? ["ALL", "SEQUENCES", "IN", "SCHEMA"] then paths
  else
    pass ["SEQUENCE", "SCHEMA", "TABLE"]
    paths

/-- Who gives or takes a privilege, if that is said. -/
def grantor? : Rule Unit := do
  if ← keywords? ["GRANTED", "BY"] then discard name

/-- Privileges that are given, after `GRANT`. -/
def grant : Rule Unit := do
  privilegesOn
  keyword "TO"
  discard (list name)
  discard (keywords? ["WITH", "GRANT", "OPTION"])
  grantor?

/-- Privileges that are taken, after `REVOKE`. -/
def revoke : Rule Unit := do
  privilegesOn
  keyword "FROM"
  discard (list name)
  grantor?
  let cascade ← keyword? "CASCADE"
  let restrict ← keyword? "RESTRICT"
  if cascade && restrict then mismatch

end Rule

end BranchDistance.Sql
