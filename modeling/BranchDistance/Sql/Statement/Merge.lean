import BranchDistance.Sql.Statement.Basic

/-!
# Merges

The statement that changes the rows of a table by those of another.
-/

namespace BranchDistance.Sql

namespace Rule

/-- What is done with rows that another table lacks or has, after `THEN`. -/
def mergeAction (isNew : Bool) : Rule Unit := do
  if isNew then
    keyword "INSERT"
    discard nameList?
    unless ← keyword? "ROW" do
      keyword "VALUES"
      discard values
  else match ← oneOf ["UPDATE", "DELETE"] with
    | "UPDATE" =>
      keyword "SET"
      discard assignments
    | _ => return ()

/-- One case of a merge. -/
def mergeCase : Rule Unit := do
  keyword "WHEN"
  let isNew ← if ← keyword? "NOT" then do
      keyword "MATCHED"
      if ← keywords? ["BY", "SOURCE"] then pure false
      else
        discard (keywords? ["BY", "TARGET"])
        pure true
    else do
      keyword "MATCHED"
      pure false
  discard (after? "AND" expr)
  keyword "THEN"
  mergeAction isNew

/-- A merge, after its keyword. -/
def merge : Rule Unit := do
  pass ["INTO"]
  discard (factor joined)
  keyword "USING"
  discard (factor joined)
  keyword "ON"
  discard expr
  loop (fun _ => do
    match ← ahead with
    | [] => return .inr ()
    | .symbol ";" :: _ => return .inr ()
    | _ => return .inl (← mergeCase)) ()

end Rule

end BranchDistance.Sql
