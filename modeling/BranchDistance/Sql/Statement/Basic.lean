import BranchDistance.Sql.Query

/-!
# Parts of statements

Parts that several statements share.  Of a statement that is not about rows nothing but its form
counts, so most of these rules give nothing.
-/

namespace BranchDistance.Sql

namespace Rule

/-- The statements of a text, each but the last followed by a semicolon.  Semicolons alone are no
statements, and the text from an `END` behind a statement on is left. -/
def statements : Rule (List Statement) :=
  loop (fun (before, complete) => do
    match ← ahead with
    | [] => return .inr before.reverse
    | t :: _ =>
      if t = .symbol ";" then
        skip 1
        return .inl (before, true)
      else if !complete then
        if t.keyword = "END" then return .inr before.reverse else mismatch
      else return .inl ((← nestedStatement) :: before, false)) ([], true)

/-- Options in parentheses after some keywords; whether there are any. -/
def optionsAfter? (ks : List String) : Rule Bool := do
  if ← keywords? ks then return !(← options).isEmpty else return false

/-- The servers on which a change is made, if that is said. -/
def onCluster? : Rule Unit := do
  if ← keywords? ["ON", "CLUSTER"] then discard name

/-- What happens to what depends on something that goes. -/
def dependents? : Rule Unit := pass ["CASCADE", "RESTRICT"]

/-- Expressions in parentheses. -/
def tuple : Rule Unit := discard (parenthesized (list expr))

/-- The owner of something. -/
def owner : Rule Unit := do
  match ← oneOf? ["CURRENT_USER", "CURRENT_ROLE", "SESSION_USER"] with
  | some _ => return ()
  | none => discard name

/-- Names of several parts with commas between them. -/
def paths : Rule Unit := discard (list path)

/-- A token that should be a name; whether it is one. -/
def looseName : Rule Bool := do
  let isName ← match ← ahead with
    | .word _ :: _ => pure true
    | .text .plain _ :: _ => pure true
    | _ => pure false
  skip 1
  return isName

/-- Tokens that should be names with points between them, up to one that is no name. -/
def loosePath : Rule Unit :=
  loop (fun _ => do
    if ← looseName then
      if ← symbol? "." then return .inl ()
    return .inr ()) ()

/-- A comment: an optional sign of equality and a text. -/
def commentText (needsSign : Bool) : Rule Unit := do
  if needsSign then symbol "=" else discard (symbol? "=")
  match ← next with
  | .text .plain _ => return ()
  | _ => mismatch

/-- An argument of a routine: its direction, its name if that is no known type, its type and its
default. -/
def parameter : Rule Unit := do
  pass ["IN", "OUT", "INOUT"]
  match ← typeName with
  | .custom _ => discard typeName
  | _ => pure ()
  if (← keyword? "DEFAULT") || (← symbol? "=") then discard expr

/-- A routine by its name, perhaps with its arguments. -/
def signature : Rule Unit := do
  discard path
  if ← symbol? "(" then
    discard (listTo ")" parameter)
    symbol ")"

/-- The conditions of a policy: for rows that are seen, and for rows that are written. -/
def policyConditions : Rule Unit := do
  discard (after? "USING" (parenthesized expr))
  if ← keywords? ["WITH", "CHECK"] then discard (parenthesized expr)

/-- The modes of a transaction, with or without commas between them. -/
def transactionModes : Rule Unit :=
  loop (fun required => do
    let found ← if ← keywords? ["ISOLATION", "LEVEL"] then do
        isolationLevel
        pure true
      else if ← keywords? ["READ", "ONLY"] then pure true
      else keywords? ["READ", "WRITE"]
    if found then return .inl (← symbol? ",")
    else if required then mismatch
    else return .inr ()) false
where
  isolationLevel : Rule Unit := do
    if ← keywords? ["READ", "UNCOMMITTED"] then return ()
    else if ← keywords? ["READ", "COMMITTED"] then return ()
    else if ← keywords? ["REPEATABLE", "READ"] then return ()
    else keyword "SERIALIZABLE"

end Rule

end BranchDistance.Sql
