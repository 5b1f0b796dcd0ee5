import BranchDistance.Sql.Statement.Basic

/-!
# Tables

The columns and constraints of a table, how its rows are kept, and the statements that create
tables.
-/

namespace BranchDistance.Sql

namespace Rule

/-- How an index is kept, after `USING`. -/
def indexMethod : Rule Unit := discard (oneOf ["BTREE", "HASH"])

/-- How an index is kept, if that is said. -/
def indexMethod? : Rule Unit := discard (after? "USING" indexMethod)

/-- The options of an index. -/
def indexOptions : Rule Unit :=
  loop (fun _ => do
    if ← keyword? "USING" then return .inl (← indexMethod)
    else if ← keyword? "COMMENT" then
      discard string
      return .inl ()
    else return .inr ()) ()

/-- Whether rows with nulls are distinct, if that is said. -/
def nullsDistinct? : Rule Unit := do
  if ← keyword? "NULLS" then
    discard (keyword? "NOT")
    keyword "DISTINCT"

/-- The name and the columns of a key with its options. -/
def keyColumns : Rule Unit := do
  discard (attempt name)
  indexMethod?
  discard names
  indexOptions
  discard timing

/-- A reference to the rows of another table, after `FOREIGN`. -/
def foreignKey : Rule Unit := do
  keyword "KEY"
  discard names
  keyword "REFERENCES"
  discard path
  discard names
  discard referentialActions
  discard timing

/-- The name and the columns of an index of a table. -/
def tableIndex : Rule Unit := do
  unless ← atKeyword "USING" do discard (attempt name)
  indexMethod?
  discard names

/-- A constraint of a table, if one is next. -/
def tableConstraint? : Rule Bool := do
  let isNamed ← if ← keyword? "CONSTRAINT" then do
      discard name
      pure true
    else pure false
  if ← keyword? "UNIQUE" then
    pass ["KEY", "INDEX"]
    nullsDistinct?
    keyColumns
    return true
  else if ← keyword? "PRIMARY" then
    keyword "KEY"
    keyColumns
    return true
  else if ← keyword? "FOREIGN" then
    foreignKey
    return true
  else if ← keyword? "CHECK" then
    discard (parenthesized expr)
    return true
  else if isNamed then mismatch
  else match ← oneOf? ["INDEX", "KEY", "FULLTEXT", "SPATIAL"] with
    | none => return false
    | some k =>
      if k = "FULLTEXT" ∨ k = "SPATIAL" then
        pass ["KEY", "INDEX"]
        discard (attempt name)
        discard names
      else tableIndex
      return true

/-- The columns and constraints of a table, if they are given. -/
def columns? : Rule Unit := do
  match (← ahead).take 2 with
  | [.symbol "(", .symbol ")"] => skip 2
  | .symbol "(" :: _ =>
    skip 1
    discard (list do
      unless ← tableConstraint? do
        match ← ahead with
        | .word _ :: _ => discard column
        | _ => mismatch)
    symbol ")"
  | _ => return ()

/-- The ends of fields and lines in a file.  Each kind is a keyword, the keywords that have to
follow it, and whether a sign for escapes may follow the end. -/
def delimiters : List (String × List String × Bool) := [
  ("FIELDS", ["TERMINATED", "BY"], true), ("COLLECTION", ["ITEMS", "TERMINATED", "BY"], false),
  ("MAP", ["KEYS", "TERMINATED", "BY"], false), ("LINES", ["TERMINATED", "BY"], false),
  ("NULL", ["DEFINED", "AS"], false)]

/-- How a row is written in a file, after `ROW`. -/
def rowFormat : Rule Unit := do
  keyword "FORMAT"
  match ← oneOf? ["SER" ++ "DE", "DELIMITED"] with
  | some "DELIMITED" => ends
  | some _ => discard string
  | none => ends
where
  ends : Rule Unit :=
    loop (fun _ => do
      match delimiters.lookup ((← oneOf? (delimiters.map (·.1))).getD "") with
      | none => return .inr ()
      | some (rest, escapes) =>
        if ← keywords? rest then
          discard name
          if escapes then
            if ← keywords? ["ESCAPED", "BY"] then discard name
          return .inl ()
        else return .inr ()) ()

/-- The files in which the rows of a table are kept, after `STORED`. -/
def storedAs : Rule Unit := do
  keyword "AS"
  if ← keyword? "INPUTFORMAT" then
    discard expr
    keyword "OUTPUTFORMAT"
    discard expr
  else discard (oneOf fileFormats)

/-- How and where the rows of a table are kept. -/
def storage : Rule Unit :=
  loop (fun _ => do
    if ← keyword? "ROW" then return .inl (← rowFormat)
    else if ← keyword? "STORED" then return .inl (← storedAs)
    else if ← keyword? "LOCATION" then
      discard string
      return .inl ()
    else if ← optionsAfter? ["WITH", "SER" ++ "DEPROPERTIES"] then return .inl ()
    else return .inr ()) ()

/-- The columns by which the rows of a table are kept apart, if there are any. -/
def partitioned? : Rule Unit := do
  if ← keywords? ["PARTITIONED", "BY"] then discard (parenthesized (list column))

/-- The buckets of a table, if there are any. -/
def buckets? : Rule Unit := do
  if ← keywords? ["CLUSTERED", "BY"] then
    discard names
    if ← keywords? ["SORTED", "BY"] then discard (parenthesized sortKeys)
    keyword "INTO"
    discard numeral
    keyword "BUCKETS"

/-- A word after a sign of equality. -/
def equalsWord : Rule Unit := do
  symbol "="
  match ← next with
  | .word _ => return ()
  | _ => mismatch

/-- The engine of a table and its first number. -/
def engine : Rule Unit := do
  if ← keyword? "ENGINE" then
    equalsWord
    if ← atSymbol "(" then discard names
  if ← keyword? "AUTO_INCREMENT" then
    discard (symbol? "=")
    discard (naturalTo 4294967295)

/-- The key, the order and the parts of the rows of a table. -/
def arrangement : Rule Unit := do
  if ← keywords? ["PRIMARY", "KEY"] then discard expr
  if ← keywords? ["ORDER", "BY"] then
    if ← symbol? "(" then
      discard (listTo ")" expr)
      symbol ")"
    else discard expr
  if ← keywords? ["PARTITION", "BY"] then discard expr
  if ← keywords? ["CLUSTER", "BY"] then discard (list name)
  discard (optionsAfter? ["OPTIONS"])

/-- The texts of a table, and what becomes of its rows after a transaction. -/
def conduct : Rule Unit := do
  if ← keywords? ["DEFAULT", "CHARSET"] then equalsWord
  if ← keyword? "COLLATE" then equalsWord
  if ← keywords? ["ON", "COMMIT"] then
    if ← keywords? ["DELETE", "ROWS"] then pure ()
    else if ← keywords? ["PRESERVE", "ROWS"] then pure ()
    else keyword "DROP"
  pass ["STRICT"]
  if ← keyword? "COMMENT" then commentText false

/-- A table that is created, after `TABLE`. -/
def createTable : Rule Unit := do
  ifNotExists
  discard path
  onCluster?
  if let some _ ← oneOf? ["LIKE", "ILIKE"] then loosePath
  if ← keyword? "CLONE" then loosePath
  columns?
  discard (keywords? ["WITHOUT", "ROWID"])
  partitioned?
  buckets?
  storage
  discard (optionsAfter? ["WITH"])
  discard (optionsAfter? ["TBLPROPERTIES"])
  engine
  arrangement
  conduct
  discard (after? "AS" query)

/-- A table outside, after `EXTERNAL`. -/
def createExternalTable : Rule Unit := do
  keyword "TABLE"
  ifNotExists
  discard path
  columns?
  partitioned?
  storage
  discard (optionsAfter? ["TBLPROPERTIES"])

/-- A table whose rows a module computes, after `VIRTUAL`. -/
def createVirtualTable : Rule Unit := do
  keyword "TABLE"
  ifNotExists
  discard path
  keyword "USING"
  discard name
  discard nameList?

end Rule

end BranchDistance.Sql
