import BranchDistance.Sql.Call

/-!
# Operands

The expressions that start without an operand on their left: names, literals, calls, everything that
a keyword introduces, and what stands in parentheses.
-/

namespace BranchDistance.Sql

/-! ### Strengths

How strongly operators bind.  An operator takes as its right operand everything that binds more
strongly than itself.
-/

namespace Strength

def or : Nat := 5
def and : Nat := 10
def not : Nat := 15
def sign : Nat := 16
def is : Nat := 17
def like : Nat := 19
def comparison : Nat := 20
def bitOr : Nat := 21
def bitXor : Nat := 22
def bitAnd : Nat := 23
def xor : Nat := 24
def sum : Nat := 30
def product : Nat := 40
def timeZone : Nat := 41
def cast : Nat := 50

end Strength

namespace Rule

/-- A text literal after its type, or an interval, whose value is an operand read by `leading`. -/
def typedLiteral (leading : Rule Expr) : Rule Expr := do
  match ← typeName with
  | .known type => return .typed type (← string)
  | .interval => intervalOf (← leading)
  | .custom _ => mismatch

/-- The branches of a case distinction, after its first `WHEN`. -/
def branches : Rule (List String) :=
  loop (fun before => do
    let condition ← expr
    keyword "THEN"
    let result ← expr
    let text := "WHEN " ++ condition.render ++ " THEN " ++ result.render
    if ← keyword? "WHEN" then return .inl (text :: before)
    else return .inr (text :: before).reverse) []

/-- A case distinction, after its keyword. -/
def caseOf : Rule Expr := do
  let subject ← if ← keyword? "WHEN" then pure "" else do
    let e ← expr
    keyword "WHEN"
    pure e.render
  let branches ← branches
  let otherwise ← if ← keyword? "ELSE" then pure ("ELSE " ++ (← expr).render) else pure ""
  keyword "END"
  return .other (words (["CASE", subject] ++ branches ++ [otherwise, "END"]))

/-- A conversion with a character set or a type, after the given word. -/
def convert (word : String) : Rule Expr := do
  symbol "("
  let e ← expr
  if ← keyword? "USING" then
    let set ← path
    symbol ")"
    return .other (word ++ "(" ++ e.render ++ " USING " ++ renderPath set ++ ")")
  else
    symbol ","
    let type ← typeText
    let set ← if ← keywords? ["CHARACTER", "SET"] then do
        pure (" CHARACTER SET " ++ renderPath (← path))
      else pure ""
    symbol ")"
    return .other (word ++ "(" ++ e.render ++ ", " ++ type ++ set ++ ")")

/-- The form in which a converted text is written, if it is given. -/
def format? : Rule String := do
  if ← keyword? "FORMAT" then
    let form ← value
    if ← keywords? ["AT", "TIME", "ZONE"] then
      return " FORMAT " ++ form ++ " AT TIME ZONE " ++ (← value)
    else return " FORMAT " ++ form
  else return ""

/-- A conversion to a type, after the given word. -/
def castCall (word : String) : Rule Expr := do
  symbol "("
  let e ← expr
  keyword "AS"
  let type ← typeText
  let format ← format?
  symbol ")"
  return .cast (.call word) e (type ++ format)

/-- A test for rows, after its keyword. -/
def existsQuery (negated : Bool) : Rule Expr := do
  return .exists negated (← parenthesized query).text

/-- A part of a time, after its keyword. -/
def extract : Rule Expr := do
  symbol "("
  let unit ← timeField
  let between ← if ← keyword? "FROM" then pure " FROM " else do
    symbol ","
    pure ", "
  let e ← expr
  symbol ")"
  return .other ("EXTRACT(" ++ unit ++ between ++ e.render ++ ")")

/-- A rounding to whole numbers, to a unit of time or to a scale, after the given word. -/
def rounding (word : String) : Rule Expr := do
  symbol "("
  let e ← expr
  let target ← if ← keyword? "TO" then pure (" TO " ++ (← timeField))
    else if ← symbol? "," then do
      match ← next with
      | .number digits long => pure (", " ++ (Literal.number digits long).render)
      | _ => mismatch
    else pure ""
  symbol ")"
  return .other (word ++ "(" ++ e.render ++ target ++ ")")

/-- The place of a text in another, after the given word; or a call of that name. -/
def position (w : Word) : Rule Expr := do
  let place ← attempt do
    symbol "("
    let sought ← operand Strength.comparison
    keyword "IN"
    let inside ← expr
    symbol ")"
    return "POSITION(" ++ sought.render ++ " IN " ++ inside.render ++ ")"
  match place with
  | some text => return .other text
  | none =>
    symbol "("
    return .other (← call [.ofWord w])

/-- A part of a text, after its keyword. -/
def substring : Rule Expr := do
  symbol "("
  let e ← expr
  let commas ← symbol? ","
  let start ← if commas then pure (", " ++ (← expr).render)
    else if ← keyword? "FROM" then pure (" FROM " ++ (← expr).render)
    else pure ""
  let hasLength ← if ← keyword? "FOR" then pure true else symbol? ","
  let length ← if hasLength then
      pure ((if commas then ", " else " FOR ") ++ (← expr).render)
    else pure ""
  symbol ")"
  return .other ("SUBSTRING(" ++ e.render ++ start ++ length ++ ")")

/-- A text with a part of it replaced, after its keyword. -/
def overlay : Rule Expr := do
  symbol "("
  let e ← expr
  keyword "PLACING"
  let what ← expr
  keyword "FROM"
  let start ← expr
  let length ← if ← keyword? "FOR" then pure (" FOR " ++ (← expr).render) else pure ""
  symbol ")"
  return .other ("OVERLAY(" ++ e.render ++ " PLACING " ++ what.render ++ " FROM " ++ start.render ++
    length ++ ")")

/-- A text without characters at its ends, after its keyword. -/
def trim : Rule Expr := do
  symbol "("
  let side := ((← oneOf? ["BOTH", "LEADING", "TRAILING"]).map (· ++ " ")).getD ""
  let e ← expr
  if ← keyword? "FROM" then
    let inside ← expr
    symbol ")"
    return .other ("TRIM(" ++ side ++ e.render ++ " FROM " ++ inside.render ++ ")")
  else if ← symbol? "," then
    let characters ← list expr
    symbol ")"
    return .other ("TRIM(" ++ e.render ++ ", " ++ renderList characters ++ ")")
  else
    symbol ")"
    return .other ("TRIM(" ++ side ++ e.render ++ ")")

/-- A full-text search, after its keyword. -/
def matchAgainst : Rule Expr := do
  let columns ← nameList
  keyword "AGAINST"
  symbol "("
  let sought ← value
  let mode ← if ← keywords? ["IN", "NATURAL", "LANGUAGE", "MODE", "WITH", "QUERY", "EXPANSION"] then
      pure "IN NATURAL LANGUAGE MODE WITH QUERY EXPANSION"
    else if ← keywords? ["IN", "NATURAL", "LANGUAGE", "MODE"] then pure "IN NATURAL LANGUAGE MODE"
    else if ← keywords? ["IN", "BOOLEAN", "MODE"] then pure "IN BOOLEAN MODE"
    else if ← keywords? ["WITH", "QUERY", "EXPANSION"] then pure "WITH QUERY EXPANSION"
    else pure ""
  symbol ")"
  return .other ("MATCH " ++ columns ++ " AGAINST (" ++ sought ++ spaced mode ++ ")")

/-- A tuple with named or typed parts, after its keyword. -/
def record : Rule Expr := do
  let (fields, closed) ← fields? typeStep
  if closed then mismatch
  else
    let parts ← parenthesized (list do
      let e ← expr
      let label ← if fields.isEmpty then after? "AS" name else pure none
      return words [e.render, after "AS" (label.map Name.render)])
    return .other ("STRUCT" ++ renderFields fields ++ "(" ++ commas parts ++ ")")

/-- The elements of an array, after the opening bracket. -/
def elements : Rule String := do
  if ← symbol? "]" then return "[]"
  else
    let es ← list expr
    symbol "]"
    return "[" ++ renderList es ++ "]"

/-- The entries of a map, after the opening brace. -/
def entries (key : Rule String) : Rule String := do
  let pairs ← listTo "\x7d" do
    let k ← key
    symbol ":"
    return k ++ ": " ++ (← expr).render
  symbol "\x7d"
  return "\x7b" ++ commas pairs ++ "\x7d"

/-- A name with all its further parts, or a call of it, after its first word. -/
def pathOrCall (w : Word) : Rule Expr := do
  match ← ahead with
  | .symbol "(" :: _ =>
    skip 1
    return .other (← call [.ofWord w])
  | .symbol "." :: _ =>
    let parts ← loop (fun before => do
      if ← symbol? "." then return .inl ((← name) :: before) else return .inr before.reverse)
      [Name.ofWord w]
    if ← symbol? "(" then return .other (← call parts) else return .path parts
  | .text style content :: _ =>
    if w.text.startsWith "_" ∧ (style = .plain ∨ style = .hexadecimal) then
      skip 1
      return .other (w.text ++ " " ++ (Literal.text style content).render)
    else return .path [.ofWord w]
  | _ => return .path [.ofWord w]

/-- What a word starts, after it. -/
def afterWord (w : Word) : Rule Expr := do
  match w.keyword with
  | "TRUE" => return .literal (.bool true)
  | "FALSE" => return .literal (.bool false)
  | "NULL" => return .literal .null
  | "CURRENT_CATALOG" => return .other w.text
  | "CURRENT_USER" => return .other w.text
  | "SESSION_USER" => return .other w.text
  | "USER" => return .other w.text
  | "CURRENT_TIMESTAMP" => return .other (← timeCall [.ofWord w])
  | "CURRENT_TIME" => return .other (← timeCall [.ofWord w])
  | "CURRENT_DATE" => return .other (← timeCall [.ofWord w])
  | "LOCALTIME" => return .other (← timeCall [.ofWord w])
  | "LOCALTIMESTAMP" => return .other (← timeCall [.ofWord w])
  | "CASE" => caseOf
  | "CONVERT" => convert "CONVERT"
  | "TRY_CONVERT" => convert "TRY_CONVERT"
  | "CAST" => castCall "CAST"
  | "TRY_CAST" => castCall "TRY_CAST"
  | "SAFE_CAST" => castCall "SAFE_CAST"
  | "EXISTS" => existsQuery false
  | "EXTRACT" => extract
  | "CEIL" => rounding "CEIL"
  | "FLOOR" => rounding "FLOOR"
  | "POSITION" => if ← atSymbol "(" then position w else pathOrCall w
  | "SUBSTRING" => substring
  | "OVERLAY" => overlay
  | "TRIM" => trim
  | "INTERVAL" => mismatch
  | "ARRAY" =>
    if ← symbol? "[" then return .other ("ARRAY" ++ (← elements))
    else if ← symbol? "(" then
      let q ← query
      symbol ")"
      return .other (w.text ++ "(" ++ q.text ++ ")")
    else pathOrCall w
  | "NOT" =>
    if ← keyword? "EXISTS" then existsQuery true
    else return .leading .not (← operand Strength.not)
  | "MATCH" => matchAgainst
  | "STRUCT" => record
  | "PRIOR" =>
    if ← isHierarchical then return .other ("PRIOR " ++ (← operand Strength.sum).render)
    else pathOrCall w
  | "MAP" =>
    if ← symbol? "\x7b" then return .other ("MAP " ++ (← entries do return (← expr).render))
    else pathOrCall w
  | _ => pathOrCall w

/-- What stands in parentheses, after the opening one: a query, an expression or several. -/
def inParentheses : Rule Expr := do
  let inner ← if ← atQuery then pure (.subquery (← query).text) else do
    match ← list expr with
    | [e] => pure (.nested e)
    | es => pure (.other ("(" ++ renderList es ++ ")"))
  symbol ")"
  if ← symbol? "." then
    match ← next with
    | .word w => return .other (inner.render ++ "." ++ (Name.ofWord w).render)
    | _ => mismatch
  else return inner

/-- An operand without the collation that may follow it. -/
def bareOperand : Rule Expr := do
  match ← next with
  | .word w => afterWord w
  | .number digits long => return .literal (.number digits long)
  | .text style content => return .literal (.text style content)
  | .placeholder name => return .literal (.placeholder name)
  | .symbol "-" => return .leading .minus (← operand Strength.product)
  | .symbol "+" => return .leading .plus (← operand Strength.product)
  | .symbol "(" => inParentheses
  | .symbol "[" => return .other (← elements)
  | .symbol ":" => return .literal (← signedPlaceholder ":")
  | .symbol "@" => return .literal (← signedPlaceholder "@")
  | .symbol "\x7b" => return .other (← entries do return (← name).render)
  | _ => mismatch

/-- An operand: a text literal after its type, or an interval, and else any other, after which its
collation may stand. -/
def leadingOperand : Rule Expr :=
  nest fun leading => do
    let typed ← match ← ahead with
      | .word _ :: _ => attempt (typedLiteral leading)
      | _ => pure none
    match typed with
    | some e => return e
    | none => collated (← bareOperand)

end Rule

end BranchDistance.Sql
