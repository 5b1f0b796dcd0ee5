import BranchDistance.Sql.Statement.Basic

/-!
# Transfers

The statements that move rows between tables and files.
-/

namespace BranchDistance.Sql

namespace Rule

/-- A text of one character that needs one byte. -/
def character : Rule Unit := do
  unless (← string).utf8ByteSize = 1 do mismatch

/-- A truth value, if one is next. -/
def flag? : Rule Unit := pass ["TRUE", "FALSE"]

/-- One option of a copy. -/
def copyOption : Rule Unit := do
  match ← oneOf ["FORMAT", "FREEZE", "DELIMITER", "NULL", "HEADER", "QUOTE", "ESCAPE",
    "FORCE_QUOTE", "FORCE_NOT_NULL", "FORCE_NULL", "ENCODING"] with
  | "FORMAT" => discard name
  | "FREEZE" => flag?
  | "HEADER" => flag?
  | "NULL" => discard string
  | "ENCODING" => discard string
  | "DELIMITER" => character
  | "QUOTE" => character
  | "ESCAPE" => character
  | _ => discard names

/-- One further option of a copy of separated values. -/
def separatedOption : Rule Unit := do
  match ← oneOf ["HEADER", "QUOTE", "ESCAPE", "FORCE"] with
  | "HEADER" => return ()
  | "FORCE" =>
    unless ← keywords? ["NOT", "NULL"] do keyword "QUOTE"
    discard (list name)
  | _ =>
    pass ["AS"]
    character

/-- One option of a copy that stands without parentheses. -/
def bareCopyOption : Rule Unit := do
  match ← oneOf ["BINARY", "DELIMITER", "NULL", "CSV"] with
  | "BINARY" => return ()
  | "DELIMITER" =>
    pass ["AS"]
    character
  | "NULL" =>
    pass ["AS"]
    discard string
  | _ => discard (many (attempt separatedOption))

/-- The rows that follow a copy in the text, up to a backslash and a point or to the end. -/
def copiedRows : Rule Unit :=
  loop (fun _ => do
    match ← ahead with
    | [] => return .inr ()
    | .symbol "\\" :: .symbol "." :: _ =>
      skip 2
      return .inr ()
    | .symbol "\\" :: _ =>
      skip 2
      return .inl ()
    | _ =>
      skip 1
      return .inl ()) ()

/-- What is copied; whether it is a query. -/
def copySource : Rule Bool := do
  if ← atSymbol "(" then
    discard (parenthesized query)
    return true
  else
    discard path
    discard nameList?
    return false

/-- A copy of rows to or from a file, after `COPY`. -/
def copy : Rule Unit := do
  let isQuery ← copySource
  let direction ← oneOf ["FROM", "TO"]
  if isQuery ∧ direction = "FROM" then mismatch
  let place ← oneOf? ["STDIN", "STDOUT", "PROGRAM"]
  match place with
  | some "STDIN" => pure ()
  | some "STDOUT" => pure ()
  | _ => discard string
  pass ["WITH"]
  if ← atSymbol "(" then discard (parenthesized (list copyOption))
  discard (many (attempt bareCopyOption))
  if place = some "STDIN" then
    symbol ";"
    copiedRows

/-- The rows of a query that are written to files, after `UNLOAD`. -/
def unload : Rule Unit := do
  discard (parenthesized query)
  keyword "TO"
  discard name
  discard (optionsAfter? ["WITH"])

end Rule

end BranchDistance.Sql
