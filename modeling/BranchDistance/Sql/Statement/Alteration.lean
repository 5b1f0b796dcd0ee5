import BranchDistance.Sql.Statement.Table

/-!
# Alterations

The statements that change tables, views, indexes and policies.
-/

namespace BranchDistance.Sql

namespace Rule

/-- The place of a column among the others, if it is given. -/
def columnPosition? : Rule Unit := do
  unless ← keyword? "FIRST" do discard (after? "AFTER" name)

/-- The type, the options and the place of a column. -/
def newColumn : Rule Unit := do
  discard typeName
  discard (many columnOption?)
  columnPosition?

/-- A projection of a table, after its keyword. -/
def projection : Rule Unit := do
  ifNotExists
  discard name
  parenthesized do
    keyword "SELECT"
    discard (list selected)
    discard group?
    discard queryOrder?

/-- What is added to a table, after `ADD`. -/
def addition : Rule Unit := do
  if ← tableConstraint? then return ()
  else if ← keyword? "PROJECTION" then projection
  else
    ifNotExists
    let parts ← many (after? "PARTITION" tuple)
    if parts.isEmpty then
      pass ["COLUMN"]
      ifNotExists
      discard column
      columnPosition?

/-- What gets a new name, after `RENAME`. -/
def newName : Rule Unit := do
  if ← keyword? "TO" then discard path
  else
    pass ["COLUMN"]
    discard name
    keyword "TO"
    discard name

/-- What is switched off, after `DISABLE`. -/
def disabled : Rule Unit := do
  unless ← keywords? ["ROW", "LEVEL", "SECURITY"] do
    discard (oneOf ["RULE", "TRIGGER"])
    discard name

/-- What is switched on, after `ENABLE`. -/
def enabled : Rule Unit := do
  unless ← keywords? ["ROW", "LEVEL", "SECURITY"] do
    pass ["ALWAYS", "REPLICA"]
    discard (oneOf ["RULE", "TRIGGER"])
    discard name

/-- A projection that is cleared or computed, after its keyword. -/
def projectionPart : Rule Unit := do
  keyword "PROJECTION"
  ifExists
  discard name
  if ← keywords? ["IN", "PARTITION"] then discard name

/-- What is taken from a table, after `DROP`. -/
def subtraction : Rule Unit := do
  if ← keywords? ["IF", "EXISTS", "PARTITION"] then tuple
  else if ← keyword? "PARTITION" then tuple
  else if ← keyword? "CONSTRAINT" then part
  else if ← keywords? ["PRIMARY", "KEY"] then return ()
  else if ← keyword? "PROJECTION" then
    ifExists
    discard name
  else
    pass ["COLUMN"]
    part
where
  part : Rule Unit := do
    ifExists
    discard name
    pass ["CASCADE"]

/-- How a column changes, after its name. -/
def columnChange : Rule Unit := do
  if ← keywords? ["SET", "NOT", "NULL"] then return ()
  else if ← keywords? ["DROP", "NOT", "NULL"] then return ()
  else if ← keywords? ["SET", "DEFAULT"] then discard expr
  else if ← keywords? ["DROP", "DEFAULT"] then return ()
  else if ← keywords? ["SET", "DATA", "TYPE"] then discard typeName
  else
    keywords ["ADD", "GENERATED"]
    unless ← keyword? "ALWAYS" do discard (keywords? ["BY", "DEFAULT"])
    keywords ["AS", "IDENTITY"]
    if ← atSymbol "(" then discard (parenthesized sequenceOptions)

/-- A part of a table. -/
def part : Rule Unit := do
  discard (oneOf ["PART", "PARTITION"])
  discard expr

/-- A part of a table that is kept or released, perhaps under a name. -/
def namedPart : Rule Unit := do
  part
  if ← keyword? "WITH" then
    keyword "NAME"
    discard name

/-- One change of a table. -/
def tableChange : Rule Unit := do
  match ← oneOf? ["ADD", "RENAME", "DISABLE", "ENABLE", "DROP", "PARTITION", "CHANGE", "MODIFY",
    "ALTER", "SWAP", "ATTACH", "DETACH", "FREEZE", "UNFREEZE", "CLEAR", "MATERIALIZE", "OWNER",
    "SET"] with
  | some "ADD" => addition
  | some "RENAME" => newName
  | some "DISABLE" => disabled
  | some "ENABLE" => enabled
  | some "CLEAR" => projectionPart
  | some "MATERIALIZE" => projectionPart
  | some "DROP" => subtraction
  | some "PARTITION" =>
    tuple
    keywords ["RENAME", "TO", "PARTITION"]
    tuple
  | some "CHANGE" =>
    pass ["COLUMN"]
    discard name
    discard name
    newColumn
  | some "MODIFY" =>
    pass ["COLUMN"]
    discard name
    newColumn
  | some "ALTER" =>
    pass ["COLUMN"]
    discard name
    columnChange
  | some "SWAP" =>
    keyword "WITH"
    discard path
  | some "OWNER" =>
    keyword "TO"
    owner
  | some "ATTACH" => part
  | some "DETACH" => part
  | some "FREEZE" => namedPart
  | some "UNFREEZE" => namedPart
  | some "SET" => unless ← optionsAfter? ["TBLPROPERTIES"] do mismatch
  | _ => mismatch

/-- The changes of a table, after `TABLE`. -/
def alterTable : Rule Unit := do
  ifExists
  pass ["ONLY"]
  discard path
  onCluster?
  discard (list tableChange)
  if ← keyword? "LOCATION" then discard name
  else if ← keywords? ["SET", "LOCATION"] then discard name

/-- The change of a view, after `VIEW`. -/
def alterView : Rule Unit := do
  discard path
  discard nameList?
  discard (optionsAfter? ["WITH"])
  keyword "AS"
  discard query

/-- The change of an index, after `INDEX`. -/
def alterIndex : Rule Unit := do
  discard path
  keywords ["RENAME", "TO"]
  discard path

/-- The change of a policy, after `POLICY`. -/
def alterPolicy : Rule Unit := do
  discard name
  keyword "ON"
  discard path
  if ← keyword? "RENAME" then
    keyword "TO"
    discard name
  else
    discard (after? "TO" (list owner))
    policyConditions

/-- A change of something that exists, after `ALTER`. -/
def alteration : Rule Unit := do
  match ← oneOf ["TABLE", "VIEW", "INDEX", "POLICY"] with
  | "TABLE" => alterTable
  | "VIEW" => alterView
  | "INDEX" => alterIndex
  | _ => alterPolicy

end Rule

end BranchDistance.Sql
