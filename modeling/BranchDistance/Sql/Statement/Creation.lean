import BranchDistance.Sql.Statement.Table

/-!
# Creations

The statements that create views, routines, triggers, indexes and all else that is no table.
-/

namespace BranchDistance.Sql

/-- The clauses of a function of which each may be given once. -/
inductive FunctionClause where
  | body
  | language
  | volatility
  | onNull
  | concurrency
  deriving DecidableEq

namespace Rule

/-- The columns of a view with their texts, if they are given. -/
def viewColumns? : Rule Unit := do
  if ← symbol? "(" then
    discard (listTo ")" do
      discard name
      if (← atKeyword "OPTIONS") || (← atKeyword "COMMENT") then discard columnOption?)
    symbol ")"

/-- A view, from `VIEW` or `MATERIALIZED` on. -/
def createView : Rule Unit := do
  pass ["MATERIALIZED"]
  keyword "VIEW"
  ifNotExists
  discard path
  viewColumns?
  discard (optionsAfter? ["WITH"])
  if ← keyword? "CLUSTER" then
    keyword "BY"
    discard nameList?
  discard (optionsAfter? ["OPTIONS"])
  discard (after? "TO" path)
  if ← keyword? "COMMENT" then commentText true
  keyword "AS"
  discard query
  discard (keywords? ["WITH", "NO", "SCHEMA", "BINDING"])

/-- A policy, after `POLICY`. -/
def createPolicy : Rule Unit := do
  discard name
  keyword "ON"
  discard path
  discard (after? "AS" (oneOf ["PERMISSIVE", "RESTRICTIVE"]))
  discard (after? "FOR" (oneOf ["ALL", "SELECT", "INSERT", "UPDATE", "DELETE"]))
  discard (after? "TO" (list owner))
  policyConditions

/-- The body of a function as a text. -/
def functionText : Rule Unit := do
  match ← ahead with
  | .text (.dollar _) _ :: _ => skip 1
  | _ => discard string

/-- One clause of a function, if one is next. -/
def functionClause? : Rule (Option FunctionClause) := do
  if ← keyword? "AS" then
    functionText
    return some .body
  else if ← keyword? "LANGUAGE" then
    discard name
    return some .language
  else if let some _ ← oneOf? ["IMMUTABLE", "STABLE", "VOLATILE"] then return some .volatility
  else if ← keywords? ["CALLED", "ON", "NULL", "INPUT"] then return some .onNull
  else if ← keywords? ["RETURNS", "NULL", "ON", "NULL", "INPUT"] then return some .onNull
  else if ← keyword? "STRICT" then return some .onNull
  else if ← keyword? "PARALLEL" then
    discard (oneOf ["UNSAFE", "RESTRICTED", "SAFE"])
    return some .concurrency
  else if ← keyword? "RETURN" then
    discard expr
    return some .body
  else return none

/-- A function, after `FUNCTION`. -/
def createFunction : Rule Unit := do
  discard path
  discard (parenthesized (listTo ")" parameter))
  discard (after? "RETURNS" typeName)
  loop (fun said => do
    match ← functionClause? with
    | some clause => if said.contains clause then mismatch else return .inl (clause :: said)
    | none => return .inr ()) []

/-- What a trigger waits for: one event or several. -/
def triggerEvents : Rule Unit :=
  loop (fun _ => do
    match ← oneOf ["INSERT", "UPDATE", "DELETE", "TRUNCATE"] with
    | "UPDATE" => discard (after? "OF" (list name))
    | _ => pure ()
    if ← keyword? "OR" then return .inl () else return .inr ()) ()

/-- The names of the tables before and after a change. -/
def transitionTables : Rule Unit :=
  loop (fun _ => do
    match ← oneOf? ["OLD", "NEW"] with
    | none => return .inr ()
    | some _ =>
      if ← keyword? "TABLE" then
        pass ["AS"]
        discard path
        return .inl ()
      else return .inr ()) ()

/-- A trigger, after `TRIGGER`. -/
def createTrigger : Rule Unit := do
  discard path
  match ← oneOf ["BEFORE", "AFTER", "INSTEAD"] with
  | "INSTEAD" => keyword "OF"
  | _ => pure ()
  triggerEvents
  keyword "ON"
  discard path
  if ← keyword? "FROM" then loosePath
  discard timing
  if ← keyword? "REFERENCING" then transitionTables
  keyword "FOR"
  pass ["EACH"]
  discard (oneOf ["ROW", "STATEMENT"])
  discard (after? "WHEN" expr)
  keyword "EXECUTE"
  discard (oneOf ["FUNCTION", "PROCEDURE"])
  signature

/-- A macro, after `MACRO`. -/
def createMacro : Rule Unit := do
  discard path
  discard (parenthesized (listTo ")" do
    discard name
    if (← symbol? ":=") || (← symbol? "=>") then discard expr))
  keyword "AS"
  if ← keyword? "TABLE" then discard query else discard expr

/-- The name and the place of a secret.  Any token is taken for either. -/
def secretName : Rule Unit := do
  unless ← atSymbol "(" do
    if ← keyword? "IN" then
      unless ← looseName do place
    else
      skip 1
      place
where
  place : Rule Unit := do
    if ← keyword? "IN" then skip 1

/-- A secret, after `SECRET`. -/
def createSecret : Rule Unit := do
  ifNotExists
  secretName
  parenthesized do
    keyword "TYPE"
    discard name
    if ← symbol? "," then
      discard (list do
        discard name
        discard name)

/-- An extension, after `EXTENSION`. -/
def createExtension : Rule Unit := do
  ifNotExists
  discard name
  if ← keyword? "WITH" then
    discard (after? "SCHEMA" name)
    discard (after? "VERSION" name)
    pass ["CASCADE"]

/-- An index, after `INDEX`. -/
def createIndex : Rule Unit := do
  pass ["CONCURRENTLY"]
  if ← keywords? ["IF", "NOT", "EXISTS"] then indexName
  else unless ← keyword? "ON" do indexName
  discard path
  discard (after? "USING" name)
  discard (parenthesized sortKeys)
  discard (after? "INCLUDE" names)
  nullsDistinct?
  discard (after? "WITH" tuple)
  discard (after? "WHERE" expr)
where
  indexName : Rule Unit := do
    discard path
    keyword "ON"

/-- A schema, after `SCHEMA`. -/
def createSchema : Rule Unit := do
  ifNotExists
  if ← keyword? "AUTHORIZATION" then discard name
  else
    discard path
    discard (after? "AUTHORIZATION" name)

/-- A database, after `DATABASE`. -/
def createDatabase : Rule Unit := do
  ifNotExists
  discard path
  discard (many do
    match ← oneOf? ["LOCATION", "MANAGEDLOCATION"] with
    | some _ => return some (← string)
    | none => return none)

/-- Some roles, after `ROLE`. -/
def createRole : Rule Unit := do
  ifNotExists
  paths
  pass ["WITH"]

/-- A sequence, after `SEQUENCE`. -/
def createSequence : Rule Unit := do
  ifNotExists
  discard path
  discard (after? "AS" typeName)
  discard sequenceOptions
  if ← keywords? ["OWNED", "BY"] then
    unless ← keyword? "NONE" do discard path

/-- Some rules with commas between them, up to a closing parenthesis, before which there may be one
more comma. -/
def closedList (p : Rule Unit) : Rule Unit :=
  loop (fun _ => do
    p
    if ← symbol? "," then
      if ← symbol? ")" then return .inr () else return .inl ()
    else
      symbol ")"
      return .inr ()) ()

/-- A type, after `TYPE`. -/
def createType : Rule Unit := do
  discard path
  keyword "AS"
  if ← keyword? "ENUM" then discard (parenthesized (listTo ")" name))
  else if ← symbol? "(" then
    unless ← symbol? ")" do
      closedList do
        discard name
        discard typeName
        discard (after? "COLLATE" path)

/-- A procedure, after `PROCEDURE`.  A comma may stand where an argument could. -/
def createProcedure : Rule Unit := do
  discard path
  if ← symbol? "(" then
    unless ← symbol? ")" do
      closedList do
        match ← ahead with
        | .word _ :: _ =>
          discard name
          discard typeName
        | _ => return ()
  keywords ["AS", "BEGIN"]
  discard statements
  keyword "END"

/-- Something new, after `CREATE`.  Some things are never put in the place of others. -/
def creation : Rule Unit := do
  let replaces ← keywords? ["OR", "REPLACE"]
  discard (keywords? ["OR", "ALTER"])
  pass ["LOCAL"]
  pass ["GLOBAL"]
  pass ["TRANSIENT"]
  pass ["TEMP", "TEMPORARY"]
  if (← atKeyword "VIEW") || (← atKeyword "MATERIALIZED") then createView
  else if ← keyword? "TABLE" then createTable
  else if ← keyword? "POLICY" then createPolicy
  else if ← keyword? "EXTERNAL" then createExternalTable
  else if ← keyword? "FUNCTION" then createFunction
  else if ← keyword? "TRIGGER" then createTrigger
  else if ← keywords? ["CONSTRAINT", "TRIGGER"] then createTrigger
  else if ← keyword? "MACRO" then createMacro
  else if ← keyword? "SECRET" then createSecret
  else if replaces then mismatch
  else if ← keyword? "EXTENSION" then createExtension
  else if ← keyword? "INDEX" then createIndex
  else if ← keywords? ["UNIQUE", "INDEX"] then createIndex
  else if ← keyword? "VIRTUAL" then createVirtualTable
  else match ← oneOf ["SCHEMA", "DATABASE", "ROLE", "SEQUENCE", "TYPE", "PROCEDURE"] with
    | "SCHEMA" => createSchema
    | "DATABASE" => createDatabase
    | "ROLE" => createRole
    | "SEQUENCE" => createSequence
    | "TYPE" => createType
    | _ => createProcedure

end Rule

end BranchDistance.Sql
