import BranchDistance.Sql.Change

/-!
# Queries

A query is a `SELECT`, or another body of rows, with what may stand before and after it.  The rules
give its written form, and for a `SELECT` its condition and its sources.
-/

namespace BranchDistance.Sql

namespace Rule

/-- The name after `TABLE`; three tokens are taken as far as there are so many, of which the last
belongs to the name if a point stands between. -/
def tableBody : Rule Written := do
  match (← ahead).take 3 with
  | [.word w, .symbol ".", .word v] =>
    skip 3
    return ("TABLE " ++ w.text ++ "." ++ v.text, .other)
  | .word _ :: .symbol "." :: _ => mismatch
  | .word w :: _ =>
    skip 3
    return ("TABLE " ++ w.text, .other)
  | _ => mismatch

/-- A body of rows without set operators. -/
def simpleBody : Rule Written := do
  if ← keyword? "SELECT" then select
  else if ← symbol? "(" then
    let q ← query
    symbol ")"
    return ("(" ++ q.text ++ ")", .other)
  else if ← keyword? "VALUES" then return (← values, .other)
  else if ← keyword? "TABLE" then tableBody
  else mismatch

/-- What a set operator does with equal rows. -/
def quantifier : Rule String := do
  if ← keywords? ["DISTINCT", "BY", "NAME"] then return "DISTINCT BY NAME"
  else if ← keywords? ["BY", "NAME"] then return "BY NAME"
  else if ← keyword? "ALL" then
    if ← keywords? ["BY", "NAME"] then return "ALL BY NAME" else return "ALL"
  else if ← keyword? "DISTINCT" then return "DISTINCT"
  else return ""

/-- Bodies with some set operators between them, from left to right. -/
def combined (operators : List String) (right : String → Rule Written) (first : Written) :
    Rule Written :=
  loop (fun left => do
    match ← oneOf? operators with
    | some op =>
      let quantifier ← quantifier
      let next ← right op
      return .inl (words [left.1, op, quantifier, next.1], .other)
    | none => return .inr left) first

/-- A body in which `INTERSECT` binds more strongly than the other set operators. -/
def bodyRule : Rule Written := do
  let strong (first : Written) : Rule Written := combined ["INTERSECT"] (fun _ => simpleBody) first
  combined ["UNION", "EXCEPT", "INTERSECT"]
    (fun op => do
      let first ← simpleBody
      if op = "INTERSECT" then return first else strong first)
    (← simpleBody)

/-- A value for a column in the rows that fill a gap. -/
def interpolation : Rule String := do
  let n ← name
  return words [n.render, after "AS" ((← after? "AS" expr).map Expr.render)]

/-- The order of the rows of a query, if there is one, with the values that fill gaps. -/
def queryOrder? : Rule String := do
  let order ← order?
  if order = "" then return ""
  else if ← keyword? "INTERPOLATE" then
    if ← atSymbol "(" then
      let columns ← parenthesized (listTo ")" interpolation)
      return order ++ " INTERPOLATE (" ++ commas columns ++ ")"
    else return order ++ " INTERPOLATE"
  else return order

/-- A limit without its keyword; `ALL` is none. -/
def limit : Rule (Option Expr) := do
  if ← keyword? "ALL" then return none else return some (← expr)

/-- An offset without its keyword. -/
def offset : Rule String := do
  let e ← expr
  match ← oneOf? ["ROW", "ROWS"] with
  | some k => return e.render ++ " " ++ k
  | none => return e.render

/-- The limit and offset that have been read. -/
structure Window where
  limit : Option String
  offset : Option String

/-- One attempt to read a limit and an offset that have not been read. -/
def windowStep (w : Window) : Rule Window := do
  let w ← if w.limit.isNone then do
      if ← keyword? "LIMIT" then pure { w with limit := (← limit).map Expr.render } else pure w
    else pure w
  let w ← if w.offset.isNone then do
      if ← keyword? "OFFSET" then pure { w with offset := some (← offset) } else pure w
    else pure w
  match w.limit, w.offset with
  | some first, none =>
    if ← symbol? "," then return ⟨some (← expr).render, some first⟩ else return w
  | _, _ => return w

/-- The number of rows to fetch, if it is given. -/
def fetch? : Rule String := do
  if ← keyword? "FETCH" then
    discard (oneOf ["FIRST", "NEXT"])
    let quantity ← match ← oneOf? ["ROW", "ROWS"] with
      | some _ => pure ""
      | none => do
        let count ← value
        let percent ← mark? "PERCENT"
        discard (oneOf ["ROW", "ROWS"])
        pure (words [count, percent])
    let ties ← if ← keyword? "ONLY" then pure "ONLY" else do
      keywords ["WITH", "TIES"]
      pure "WITH TIES"
    return words ["FETCH FIRST", quantity, "ROWS", ties]
  else return ""

/-- A text in parentheses and quotes. -/
def label : Rule String := return "('" ++ (← parenthesized string) ++ "')"

/-- Words after commas, each of which some rule reads.  A word that no rule reads is not taken. -/
def addenda (p : Rule (Option String)) : Rule (List String) := do
  return (← many do
    if ← symbol? "," then return some ((← p).getD "") else return none).filter (· ≠ "")

/-- One of some words that are read with what follows, as it is said last. -/
def lastOf (starts : List String) (said : List String) : String :=
  commas (starts.filterMap fun start => said.reverse.find? (·.startsWith start))

/-- The form of rows that are given as XML, after its keyword. -/
def xmlForm : Rule String := do
  let form ← match ← oneOf ["RAW", "AUTO", "EXPLICIT", "PATH"] with
    | "RAW" => if ← atSymbol "(" then pure ("RAW" ++ (← label)) else pure "RAW"
    | "PATH" => if ← atSymbol "(" then pure ("PATH" ++ (← label)) else pure "PATH"
    | k => pure k
  let said ← addenda do
    if ← keyword? "ELEMENTS" then return some "ELEMENTS"
    else if ← keyword? "BINARY" then
      keyword "BASE64"
      return some "BINARY BASE64"
    else if ← keyword? "ROOT" then return some ("ROOT" ++ (← label))
    else if ← keyword? "TYPE" then return some "TYPE"
    else return none
  let rest := lastOf ["BINARY", "TYPE", "ROOT", "ELEMENTS"] said
  return "FOR XML " ++ form ++ if rest = "" then "" else ", " ++ rest

/-- The form of rows that are given as JSON, after its keyword. -/
def jsonForm : Rule String := do
  let form ← oneOf ["AUTO", "PATH"]
  let said ← addenda do
    if ← keyword? "ROOT" then return some ("ROOT" ++ (← label))
    else oneOf? ["INCLUDE_NULL_VALUES", "WITHOUT_ARRAY_WRAPPER"]
  let rest := lastOf ["ROOT", "INCLUDE", "WITHOUT"] said
  return "FOR JSON " ++ form ++ if rest = "" then "" else ", " ++ rest

/-- A lock on the rows, after its keyword. -/
def lock : Rule String := do
  let kind ← oneOf ["UPDATE", "SHARE"]
  let of ← if ← keyword? "OF" then pure ("OF " ++ renderPath (← path)) else pure ""
  let wait ← if ← keyword? "NOWAIT" then pure "NOWAIT"
    else if ← keywords? ["SKIP", "LOCKED"] then pure "SKIP LOCKED"
    else pure ""
  return words ["FOR", kind, of, wait]

/-- The locks on the rows, or after some of them the form in which the rows are given. -/
def purposes : Rule String :=
  loop (fun before => do
    if ← keyword? "FOR" then
      if ← keyword? "XML" then return .inr (words [before, ← xmlForm])
      else if ← keyword? "JSON" then return .inr (words [before, ← jsonForm])
      else if ← keyword? "BROWSE" then return .inr (words [before, "FOR BROWSE"])
      else return .inl (words [before, ← lock])
    else return .inr before) ""

/-- The name of a form in which the rows are given, if there is one. -/
def form? : Rule String := do
  if ← keyword? "FORMAT" then
    if ← keyword? "NULL" then return "FORMAT NULL" else return "FORMAT " ++ (← name).render
  else return ""

/-- A query that is given a name for the rest of the statement. -/
def namedQuery : Rule String := do
  let n ← name
  let columns ← nameList?
  keyword "AS"
  let q ← parenthesized query
  let origin ← after? "FROM" name
  return words [n.render, columns, "AS (" ++ q.text ++ ")", after "FROM" (origin.map Name.render)]

/-- The named queries before a query, if there are any. -/
def with? : Rule String := do
  if ← keyword? "WITH" then
    let recursive ← mark? "RECURSIVE"
    return words ["WITH", recursive, commas (← list namedQuery)]
  else return ""

/-- A query with all that may stand around its body. -/
def queryRule : Rule Query := do
  let named ← with?
  if ← keyword? "INSERT" then
    let text ← insert
    return ⟨words [named, text], text, .other⟩
  else if ← keyword? "UPDATE" then
    let u ← update
    return ⟨words [named, u.text], u.text, .other⟩
  else
    let (text, body) ← bodyRule
    let order ← queryOrder?
    let window ← windowStep (← windowStep ⟨none, none⟩)
    let limitBy ← after? "BY" (list expr)
    let settings ← settings?
    let fetch ← fetch?
    let purposes ← purposes
    let form ← form?
    return ⟨words [named, text, order, after "LIMIT" window.limit, after "OFFSET" window.offset,
      after "BY" (limitBy.map renderList), settings, fetch, purposes, form], text, body⟩

end Rule

end BranchDistance.Sql
