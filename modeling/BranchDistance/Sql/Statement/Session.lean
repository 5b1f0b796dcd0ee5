import BranchDistance.Sql.Statement.Basic

/-!
# Sessions

The statements that set and show what holds in a session, and that begin and end its transactions.
-/

namespace BranchDistance.Sql

namespace Rule

/-- The role of a session, from `ROLE` on. -/
def setRole : Rule Unit := do
  keyword "ROLE"
  unless ← keyword? "NONE" do discard name

/-- The name of what is set: `none` for several names in parentheses. -/
def settingName : Rule (Option String) := do
  if ← keywords? ["TIME", "ZONE"] then return some "TIMEZONE"
  else if ← atSymbol "(" then
    discard names
    return none
  else return some (renderPath (← path))

/-- The values that are set. -/
def settingValues : Rule Unit :=
  discard (list do if ← atQuery then discard query else discard expr)

/-- The texts that a session understands, after `NAMES`. -/
def setNames : Rule Unit := do
  unless ← keyword? "DEFAULT" do
    discard string
    discard (after? "COLLATE" string)

/-- What is set without a sign of equality. -/
def setPlain (variableName : String) (qualified : Bool) : Rule Unit := do
  if variableName.toUpper = "TIMEZONE" then discard expr
  else if variableName = "CHARACTERISTICS" then
    keywords ["AS", "TRANSACTION"]
    transactionModes
  else if variableName = "TRANSACTION" ∧ !qualified then
    if ← keyword? "SNAPSHOT" then discard value else transactionModes
  else mismatch

/-- A value that is set under a name, or several. -/
def setVariable (qualified : Bool) : Rule Unit := do
  match ← settingName with
  | none =>
    if ← symbol? "=" then parenthesized settingValues
    else
      keyword "TO"
      parenthesized settingValues
  | some variableName =>
    if variableName.toUpper = "NAMES" then setNames
    else if (← symbol? "=") || (← keyword? "TO") then settingValues
    else setPlain variableName qualified

/-- What holds from now on, after `SET`. -/
def setSession : Rule Unit := do
  let scope ← oneOf? ["SESSION", "LOCAL", "HIVEVAR"]
  if scope = some "HIVEVAR" then
    symbol ":"
    setVariable true
  else match ← attempt setRole with
    | some _ => return ()
    | none => setVariable scope.isSome

/-- Which of some things are shown. -/
def shownFilter : Rule Unit := do
  match ← oneOf? ["LIKE", "ILIKE", "WHERE"] with
  | some "WHERE" => discard expr
  | some _ => discard string
  | none => discard (attempt string)

/-- The place of what is shown, if it is given. -/
def shownIn? : Rule Unit := do
  match ← oneOf? ["FROM", "IN"] with
  | some _ => discard name
  | none => return ()

/-- The columns of a table that are shown, after their keyword. -/
def showColumns : Rule Unit := do
  discard (oneOf ["FROM", "IN"])
  discard path
  shownIn?
  shownFilter

/-- The names of a value that is shown: all tokens up to a sign of equality. -/
def shownNames : Rule Unit := do
  skip ((← ahead).takeWhile (· ≠ .symbol "=")).length

/-- What is shown, after `SHOW`. -/
def showSession : Rule Unit := do
  let extended ← keyword? "EXTENDED"
  let full ← keyword? "FULL"
  pass ["SESSION"]
  pass ["GLOBAL"]
  if let some _ ← oneOf? ["COLUMNS", "FIELDS"] then showColumns
  else if (← keywords? ["MATERIALIZED", "VIEWS"]) || (← keyword? "VIEWS") ||
      (← keyword? "TABLES") then
    shownIn?
    shownFilter
  else if ← keyword? "FUNCTIONS" then shownFilter
  else if extended || full then mismatch
  else if ← keyword? "CREATE" then
    discard (oneOf ["TABLE", "TRIGGER", "FUNCTION", "PROCEDURE", "EVENT", "VIEW"])
    discard path
  else match ← oneOf? ["COLLATION", "VARIABLES", "STATUS", "DATABASES", "SCHEMAS"] with
    | some _ => shownFilter
    | none => shownNames

/-- What may follow a word that begins or ends a transaction. -/
def transactionWord : Rule Unit := pass ["TRANSACTION", "WORK"]

/-- The start of a transaction, after `START`. -/
def startTransaction : Rule Unit := do
  keyword "TRANSACTION"
  transactionModes

/-- The start of a transaction, after `BEGIN`. -/
def beginTransaction : Rule Unit := do
  pass ["DEFERRED", "IMMEDIATE", "EXCLUSIVE"]
  transactionWord
  transactionModes

/-- The end of a transaction, after its keyword; another one may follow. -/
def endTransaction : Rule Unit := do
  transactionWord
  if ← keyword? "AND" then
    pass ["NO"]
    keyword "CHAIN"

/-- The end of a transaction that has no effect, or none from some point on. -/
def rollback : Rule Unit := do
  endTransaction
  if ← keyword? "TO" then
    pass ["SAVEPOINT"]
    discard name

/-- A point of a transaction that is released, after `RELEASE`. -/
def release : Rule Unit := do
  pass ["SAVEPOINT"]
  discard name

/-- What is dropped from a session, after `DISCARD`. -/
def discarded : Rule Unit := discard (oneOf ["ALL", "PLANS", "SEQUENCES", "TEMP", "TEMPORARY"])

end Rule

end BranchDistance.Sql
