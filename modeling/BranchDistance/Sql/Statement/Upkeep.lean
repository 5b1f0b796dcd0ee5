import BranchDistance.Sql.Statement.Basic

/-!
# Upkeep

The statements that keep a database in order: statistics, caches, logs, files and remarks.
-/

namespace BranchDistance.Sql

namespace Rule

/-- Statistics of a table, after `ANALYZE`. -/
def analyze : Rule Unit := do
  keyword "TABLE"
  discard path
  loop (fun _ => do
    match ← oneOf? ["PARTITION", "FOR", "CACHE", "NOSCAN", "COMPUTE"] with
    | some "PARTITION" => return .inl (← tuple)
    | some "FOR" =>
      keyword "COLUMNS"
      discard (attempt (list name))
      return .inl ()
    | some "CACHE" => return .inl (← keyword "METADATA")
    | some "COMPUTE" => return .inl (← keyword "STATISTICS")
    | some _ => return .inl ()
    | none => return .inr ()) ()

/-- Tables that lose all rows, after `TRUNCATE`. -/
def truncate : Rule Unit := do
  pass ["TABLE"]
  pass ["ONLY"]
  paths
  discard (after? "PARTITION" tuple)
  unless ← keywords? ["RESTART", "IDENTITY"] do discard (keywords? ["CONTINUE", "IDENTITY"])
  dependents?
  onCluster?

/-- A database file that is attached, after `ATTACH`. -/
def attach : Rule Unit := do
  pass ["DATABASE"]
  discard expr
  keyword "AS"
  discard name

/-- A database that is detached, after `DETACH`. -/
def detach : Rule Unit := do
  pass ["DATABASE"]
  ifExists
  discard name

/-- The parts of a table that are looked for again, after `MSCK`. -/
def repair : Rule Unit := do
  pass ["REPAIR"]
  keyword "TABLE"
  discard path
  discard (attempt do
    pass ["ADD", "DROP", "SYNC"]
    keyword "PARTITIONS")

/-- A table that is kept in memory, after `CACHE`.  The query after it starts with a word. -/
def cache : Rule Unit := do
  if ← keyword? "TABLE" then discard path
  else
    discard path
    keyword "TABLE"
    discard path
  discard (optionsAfter? ["OPTIONS"])
  match ← ahead with
  | [] => return ()
  | .word _ :: _ =>
    pass ["AS"]
    discard query
  | _ => mismatch

/-- A table that is no longer kept in memory, after `UNCACHE`. -/
def uncache : Rule Unit := do
  keyword "TABLE"
  ifExists
  discard path

/-- Something running that is stopped, after `KILL`. -/
def kill : Rule Unit := do
  pass ["CONNECTION", "QUERY", "MUTATION"]
  discard natural

/-- The tables that are written out: a locking, an export and names in any order, up to a token that
is no word, which is taken. -/
def flushTables : Rule Unit :=
  loop (fun _ => do
    match ← ahead with
    | .word w :: _ =>
      if !Sql.keywords.contains w.keyword then
        paths
        return .inl ()
      else
        skip 1
        if w.keyword = "WITH" then discard (keywords? ["READ", "LOCK"])
        if w.keyword = "FOR" then pass ["EXPORT"]
        return .inl ()
    | _ =>
      skip 1
      return .inr ()) ()

/-- What is written out, after `FLUSH`. -/
def flush : Rule Unit := do
  pass ["NO_WRITE_TO_BINLOG", "LOCAL"]
  match ← oneOf ["BINARY", "ENGINE", "ERROR", "GENERAL", "SLOW", "RELAY", "HOSTS", "LOGS",
    "PRIVILEGES", "OPTIMIZER_COSTS", "STATUS", "USER_RESOURCES", "TABLES"] with
  | "TABLES" => flushTables
  | "RELAY" =>
    keyword "LOGS"
    if ← keywords? ["FOR", "CHANNEL"] then discard path
  | k => if ["BINARY", "ENGINE", "ERROR", "GENERAL", "SLOW"].contains k then keyword "LOGS"

/-- The value of a setting: a text, a number or a placeholder. -/
def pragmaValue : Rule Unit := do
  match ← ahead with
  | .word ⟨_, some '"', _⟩ :: _ => skip 1
  | _ =>
    match ← literal with
    | .text .plain _ => return ()
    | .number _ _ => return ()
    | .placeholder _ => return ()
    | _ => mismatch

/-- A setting that is read or written, after `PRAGMA`. -/
def pragma : Rule Unit := do
  discard path
  if ← atSymbol "(" then parenthesized pragmaValue
  else if ← symbol? "=" then pragmaValue

/-- A table whose files are put in order, after `OPTIMIZE`. -/
def optimize : Rule Unit := do
  keyword "TABLE"
  discard path
  onCluster?
  if ← keyword? "PARTITION" then
    if ← keyword? "ID" then discard name else discard expr
  pass ["FINAL"]
  if ← keyword? "DEDUPLICATE" then discard (after? "BY" expr)

/-- A remark on something, after `COMMENT`. -/
def remark : Rule Unit := do
  ifExists
  keyword "ON"
  discard (oneOf ["COLUMN", "TABLE", "EXTENSION", "SCHEMA", "DATABASE", "USER", "ROLE"])
  discard path
  keyword "IS"
  unless ← keyword? "NULL" do discard string

/-- A condition that has to hold, after `ASSERT`. -/
def assertion : Rule Unit := do
  discard expr
  discard (after? "AS" expr)

end Rule

end BranchDistance.Sql
