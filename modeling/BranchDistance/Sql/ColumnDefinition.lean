import BranchDistance.Sql.Atom

/-!
# Definitions of columns

A column is defined by its name, its type and its options.  The rules give the form in which a
definition is written again.  Types may hold definitions in turn, so the rule for types is a
parameter.
-/

namespace BranchDistance.Sql

/-- When a constraint is checked, as far as that has been said. -/
structure Timing where
  deferrable : Option String
  initially : Option String
  enforced : Option String

/-- The written form of a timing. -/
def Timing.render (t : Timing) : String :=
  words [t.deferrable.getD "", t.initially.getD "", t.enforced.getD ""]

/-- The rest of a text after its keyword, if there is any. -/
def after (keyword : String) (rest : Option String) : String :=
  match rest with
  | some rest => keyword ++ " " ++ rest
  | none => ""

namespace Rule

/-- When a constraint is checked. -/
def timing : Rule String :=
  loop (fun (t : Timing) => do
    if t.deferrable.isNone then
      if ← keywords? ["NOT", "DEFERRABLE"] then
        return .inl { t with deferrable := some "NOT DEFERRABLE" }
      if ← keyword? "DEFERRABLE" then return .inl { t with deferrable := some "DEFERRABLE" }
    if t.initially.isNone then
      if ← keyword? "INITIALLY" then
        let k ← oneOf ["DEFERRED", "IMMEDIATE"]
        return .inl { t with initially := some ("INITIALLY " ++ k) }
    if t.enforced.isNone then
      if ← keyword? "ENFORCED" then return .inl { t with enforced := some "ENFORCED" }
      if ← keywords? ["NOT", "ENFORCED"] then
        return .inl { t with enforced := some "NOT ENFORCED" }
    return .inr t.render) ⟨none, none, none⟩

/-- What happens to the rows that refer to a row. -/
def referentialAction : Rule String := do
  if ← keyword? "RESTRICT" then return "RESTRICT"
  else if ← keyword? "CASCADE" then return "CASCADE"
  else if ← keywords? ["SET", "NULL"] then return "SET NULL"
  else if ← keywords? ["NO", "ACTION"] then return "NO ACTION"
  else
    keywords ["SET", "DEFAULT"]
    return "SET DEFAULT"

/-- What happens to the rows that refer to a row when it goes or changes. -/
def referentialActions : Rule String :=
  loop (fun (onDelete, onUpdate) => do
    if Option.isNone onDelete then
      if ← keywords? ["ON", "DELETE"] then return .inl (some (← referentialAction), onUpdate)
    if Option.isNone onUpdate then
      if ← keywords? ["ON", "UPDATE"] then return .inl (onDelete, some (← referentialAction))
    return .inr (words [after "ON DELETE" onDelete, after "ON UPDATE" onUpdate])) (none, none)

/-- The options of a sequence, each after a blank. -/
def sequenceOptions : Rule String := do
  let increment ← if ← keyword? "INCREMENT" then do
      let joint ← if ← keyword? "BY" then pure " BY" else pure ""
      pure (" INCREMENT" ++ joint ++ " " ++ (← signedNumeral))
    else pure ""
  let least ← bound "MINVALUE"
  let greatest ← bound "MAXVALUE"
  let start ← if ← keyword? "START" then do
      let joint ← if ← keyword? "WITH" then pure " WITH" else pure ""
      pure (" START" ++ joint ++ " " ++ (← signedNumeral))
    else pure ""
  let cache ← if ← keyword? "CACHE" then pure (" CACHE " ++ (← signedNumeral)) else pure ""
  let cycle ← if ← keywords? ["NO", "CYCLE"] then pure " NO CYCLE"
    else if ← keyword? "CYCLE" then pure " CYCLE"
    else pure ""
  return increment ++ least ++ greatest ++ start ++ cache ++ cycle
where
  bound (k : String) : Rule String := do
    if ← keyword? k then return " " ++ k ++ " " ++ (← signedNumeral)
    else if ← keywords? ["NO", k] then return " NO " ++ k
    else return ""

/-- The storage of a computed column, if that is said, after a blank. -/
def storage? : Rule String := do
  if ← keyword? "STORED" then return " STORED"
  else if ← keyword? "VIRTUAL" then return " VIRTUAL"
  else return ""

/-- How a column is generated, after its keyword.  Without a known form nothing is said. -/
def generated : Rule (Option String) := do
  let identity (k : String) : Rule (Option String) := do
    let options ← if ← symbol? "(" then do
        let options ← sequenceOptions
        symbol ")"
        pure options
      else pure ""
    let options := if options = "" then "" else " (" ++ options ++ " )"
    return some ("GENERATED " ++ k ++ " AS IDENTITY" ++ options)
  if ← keywords? ["ALWAYS", "AS", "IDENTITY"] then identity "ALWAYS"
  else if ← keywords? ["BY", "DEFAULT", "AS", "IDENTITY"] then identity "BY DEFAULT"
  else if ← keywords? ["ALWAYS", "AS"] then
    if ← atSymbol "(" then
      let e ← parenthesized expr
      return some ("GENERATED ALWAYS AS (" ++ e.render ++ ")" ++ (← storage?))
    else return none
  else return none

/-- One option with a name: a key with a value, or a setting of how rows are laid out. -/
def option : Rule String := do
  match ← ahead with
  | t :: _ =>
    match t.keyword with
    | "HEAP" => return (← name).render
    | "PARTITION" => skip 1; rangePartition
    | "CLUSTERED" => skip 1; clustered
    | _ =>
      let key ← name
      symbol "="
      return key.render ++ " = " ++ (← expr).render
  | [] => mismatch
where
  rangePartition : Rule String := do
    symbol "("
    let column ← name
    keyword "RANGE"
    let direction := (← oneOf? ["LEFT", "RIGHT"]).getD ""
    keywords ["FOR", "VALUES"]
    let bounds ← parenthesized (list expr)
    symbol ")"
    return "PARTITION (" ++ column.render ++ " RANGE" ++ spaced direction ++ " FOR VALUES (" ++
      renderList bounds ++ "))"
  clustered : Rule String := do
    if ← keywords? ["COLUMNSTORE", "INDEX", "ORDER"] then
      return "CLUSTERED COLUMNSTORE INDEX ORDER " ++ (← nameList)
    else if ← keywords? ["COLUMNSTORE", "INDEX"] then return "CLUSTERED COLUMNSTORE INDEX"
    else
      keyword "INDEX"
      let columns ← parenthesized (list do
        let n ← name
        return n.render ++ spaced ((← oneOf? ["ASC", "DESC"]).getD ""))
      return "CLUSTERED INDEX (" ++ commas columns ++ ")"

/-- Options in parentheses. -/
def options : Rule (List String) := parenthesized (listTo ")" option)

/-- The first and the further values of a numbered column, if they are said. -/
def numbering? : Rule String := do
  if ← symbol? "(" then
    let first ← signedNumeral
    symbol ","
    let increment ← signedNumeral
    symbol ")"
    return "(" ++ first ++ ", " ++ increment ++ ")"
  else return ""

/-- One option of a column, if one is next. -/
def columnOption? : Rule (Option String) := do
  if ← keywords? ["CHARACTER", "SET"] then return some ("CHARACTER SET " ++ renderPath (← path))
  else if ← keywords? ["NOT", "NULL"] then return some "NOT NULL"
  else if ← keyword? "COMMENT" then
    match ← next with
    | .text .plain content => return some ("COMMENT " ++ (Literal.text .plain content).render)
    | _ => mismatch
  else if ← keyword? "NULL" then return some "NULL"
  else if ← keyword? "DEFAULT" then return some ("DEFAULT " ++ (← expr).render)
  else if ← keyword? "MATERIALIZED" then return some ("MATERIALIZED " ++ (← expr).render)
  else if ← keyword? "ALIAS" then return some ("ALIAS " ++ (← expr).render)
  else if ← keyword? "EPHEMERAL" then
    if (← atSymbol ",") || (← atSymbol ")") then return some "EPHEMERAL"
    else return some ("EPHEMERAL " ++ (← expr).render)
  else if ← keywords? ["PRIMARY", "KEY"] then return some ("PRIMARY KEY" ++ spaced (← timing))
  else if ← keyword? "UNIQUE" then return some ("UNIQUE" ++ spaced (← timing))
  else if ← keyword? "REFERENCES" then
    let table ← path
    let columns ← nameList?
    let actions ← referentialActions
    return some (words ["REFERENCES " ++ renderPath table, columns, actions, ← timing])
  else if ← keyword? "CHECK" then
    return some ("CHECK (" ++ (← parenthesized expr).render ++ ")")
  else if let some k ← oneOf? ["AUTO_INCREMENT", "AUTOINCREMENT", "ASC", "DESC"] then return some k
  else if ← keywords? ["ON", "UPDATE"] then return some ("ON UPDATE " ++ (← expr).render)
  else if ← keyword? "GENERATED" then generated
  else if ← keyword? "OPTIONS" then return some ("OPTIONS(" ++ commas (← options) ++ ")")
  else if ← keyword? "AS" then
    let e ← parenthesized expr
    return some ("AS (" ++ e.render ++ ")" ++ (← storage?))
  else if ← keyword? "IDENTITY" then return some ("IDENTITY" ++ (← numbering?))
  else if ← keywords? ["ON", "CONFLICT"] then
    return some ("ON CONFLICT " ++ (← oneOf ["ROLLBACK", "ABORT", "FAIL", "IGNORE", "REPLACE"]))
  else return none

/-- The collation and the options of a column that have been read, the options latest first. -/
structure ColumnTail where
  collation : Option (List Name)
  options : List String

/-- A column with its type and its options. -/
def columnDefinition (typeName : Rule String) : Rule String := do
  let n ← name
  let type ← typeName
  let collation ← after? "COLLATE" path
  let tail ← loop (fun (tail : ColumnTail) => do
    if ← keyword? "CONSTRAINT" then
      let n ← name
      match ← columnOption? with
      | some o =>
        let text := "CONSTRAINT " ++ n.render ++ " " ++ o
        return .inl { tail with options := text :: tail.options }
      | none => mismatch
    else match ← columnOption? with
      | some o => return .inl { tail with options := o :: tail.options }
      | none =>
        if ← keyword? "COLLATE" then return .inl { tail with collation := some (← path) }
        else return .inr tail) ⟨collation, []⟩
  return words ([n.render, type, after "COLLATE" (tail.collation.map renderPath)] ++
    tail.options.reverse)

end Rule

end BranchDistance.Sql
