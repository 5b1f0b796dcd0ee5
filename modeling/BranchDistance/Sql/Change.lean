import BranchDistance.Sql.Select

/-!
# Changes of rows

`UPDATE` and `INSERT`, which may also stand in a query, with their written forms.
-/

namespace BranchDistance.Sql

/-- The files in which rows may be kept. -/
def fileFormats : List String :=
  ["AVRO", "JSONFILE", "ORC", "PARQUET", "RCFILE", "SEQUENCEFILE", "TEXTFILE"]

namespace Rule

/-- The columns that a statement returns, if it does. -/
def returning? : Rule String := do
  if ← keyword? "RETURNING" then return "RETURNING " ++ commas (← list selected) else return ""

/-- A new value for a column or for several. -/
def assignment : Rule String := do
  let target ← if ← atSymbol "(" then do
      pure ("(" ++ commas ((← parenthesized (list path)).map renderPath) ++ ")")
    else do pure (renderPath (← path))
  symbol "="
  return target ++ " = " ++ (← expr).render

/-- New values for several columns. -/
def assignments : Rule String := return commas (← list assignment)

/-- An `UPDATE` statement. -/
structure Update where
  text : String
  table : Source
  selection : Option Expr

/-- An `UPDATE`, after its keyword. -/
def update : Rule Update := do
  let table ← source
  keyword "SET"
  let assignments ← assignments
  let origin ← if ← keyword? "FROM" then pure ("FROM " ++ (← source).text) else pure ""
  let selection ← where?
  let returning ← returning?
  return ⟨words ["UPDATE", table.text, "SET", assignments, origin, renderWhere selection,
    returning], table, selection⟩

/-- A word that is written again if it is next. -/
def mark? (k : String) : Rule String := do
  if ← keyword? k then return k else return ""

/-- Rows written to files, after the keyword `DIRECTORY`. -/
def insertFiles (overwrite nearby : String) : Rule String := do
  let place ← string
  let form ← if ← keywords? ["STORED", "AS"] then pure ("STORED AS " ++ (← oneOf fileFormats))
    else pure ""
  return words ["INSERT", overwrite, nearby, "DIRECTORY '" ++ place ++ "'", form, (← query).text]

/-- The columns, the partition and the rows of an `INSERT`. -/
def insertedRows : Rule String := do
  if ← keywords? ["DEFAULT", "VALUES"] then return "DEFAULT VALUES"
  else
    let isQuery := match ← ahead with
      | .symbol "(" :: t :: _ => t.keyword == "SELECT"
      | _ => false
    if isQuery then return (← query).text
    else
      let columns ← nameList?
      let parts ← if ← keyword? "PARTITION" then do
          pure ("PARTITION (" ++ renderList (← parenthesized (list expr)) ++ ")")
        else pure ""
      return words [columns, parts, (← query).text]

/-- What happens to a row that is there already, after `ON CONFLICT`. -/
def onConflict : Rule String := do
  let target ← if ← keywords? ["ON", "CONSTRAINT"] then do
      pure (" ON CONSTRAINT " ++ renderPath (← path))
    else nameList?
  keyword "DO"
  if ← keyword? "NOTHING" then return "ON CONFLICT" ++ target ++ " DO NOTHING"
  else
    keywords ["UPDATE", "SET"]
    let assignments ← assignments
    let selection ← where?
    return words ["ON CONFLICT" ++ target, "DO UPDATE SET", assignments, renderWhere selection]

/-- What happens to rows that are there already, if that is said. -/
def conflict? : Rule String := do
  if ← keyword? "ON" then
    if ← keyword? "CONFLICT" then onConflict
    else
      keywords ["DUPLICATE", "KEY", "UPDATE"]
      return "ON DUPLICATE KEY UPDATE " ++ (← assignments)
  else return ""

/-- An `INSERT`, after its keyword. -/
def insert : Rule String := do
  let priority := (← oneOf? ["LOW_PRIORITY", "DELAYED", "HIGH_PRIORITY"]).getD ""
  let ignore ← mark? "IGNORE"
  let overwrite ← mark? "OVERWRITE"
  let into ← mark? "INTO"
  let nearby ← mark? "LOCAL"
  if ← keyword? "DIRECTORY" then insertFiles overwrite nearby
  else
    let table ← mark? "TABLE"
    let target ← path
    let rows ← insertedRows
    let rowName ← if ← keyword? "AS" then do
        let n ← path
        pure (words ["AS", renderPath n, ← nameList?])
      else pure ""
    let conflict ← conflict?
    let returning ← returning?
    return words ["INSERT", priority, ignore, overwrite, into, table, renderPath target, rows,
      rowName, conflict, returning]

end Rule

end BranchDistance.Sql
