import BranchDistance.Sql.Factor

/-!
# Tables from JSON

A JSON value may be read as a table, whose columns are found by paths.
-/

namespace BranchDistance.Sql

namespace Rule

/-- What a missing or faulty value becomes, if that is said. -/
def substitute? : Rule (Option String) := do
  let text ← if ← keyword? "NULL" then pure "NULL"
    else if ← keyword? "ERROR" then pure "ERROR"
    else if ← keyword? "DEFAULT" then do pure ("DEFAULT " ++ (← value))
    else pure ""
  if text = "" then return none
  else
    keyword "ON"
    return some text

/-- What values become that are missing, and those that are faulty. -/
def substitutes : Rule String :=
  loop (fun (onEmpty, onError) => do
    match ← substitute? with
    | some text =>
      if ← keyword? "EMPTY" then return .inl (text ++ " ON EMPTY", onError)
      else
        keyword "ERROR"
        return .inl (onEmpty, text ++ " ON ERROR")
    | none => return .inr (words [onEmpty, onError])) ("", "")

/-- One column of the table. -/
def jsonColumn : Rule String :=
  nest fun column => do
    if ← keyword? "NESTED" then
      discard (keyword? "PATH")
      let path ← value
      keyword "COLUMNS"
      let columns ← parenthesized (list column)
      return "NESTED PATH " ++ path ++ " COLUMNS (" ++ commas columns ++ ")"
    else
      let n ← name
      if ← keyword? "FOR" then
        keyword "ORDINALITY"
        return n.render ++ " FOR ORDINALITY"
      else
        let type ← typeText
        let mark ← if ← keyword? "EXISTS" then pure "EXISTS" else pure ""
        keyword "PATH"
        let path ← value
        return words [n.render, type, mark, "PATH", path, ← substitutes]

/-- A JSON value read as a table, after the opening parenthesis. -/
def jsonTable : Rule Factor := do
  let e ← expr
  symbol ","
  let path ← value
  keyword "COLUMNS"
  let columns ← parenthesized (list jsonColumn)
  symbol ")"
  labelled ("JSON_TABLE(" ++ e.render ++ ", " ++ path ++ " COLUMNS(" ++ commas columns ++ "))")

end Rule

end BranchDistance.Sql
