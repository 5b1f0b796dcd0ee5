import BranchDistance.Sql.ColumnDefinition

/-!
# Names of types

The types that a value may be converted to, and that may introduce a text literal.  A rule reads a
type and gives the form in which it is written again.

Types of elements and fields stand between angle brackets, and two closing ones may be written as
one sign; so the rule for a type says whether its last sign closes the type around it as well.
-/

namespace BranchDistance.Sql

/-- A type as far as the grammar of expressions depends on it. -/
inductive TypeName where
  | known (text : String)
  | interval
  /-- A type that is not known by its keyword. -/
  | custom (text : String)

/-- The written form of a type. -/
def TypeName.text : TypeName → String
  | known text => text
  | interval => "INTERVAL"
  | custom text => text

/-- The keywords that are whole types, with their written forms. -/
def wholeTypes : List (String × String) := [
  ("BOOLEAN", "BOOLEAN"), ("BOOL", "BOOL"), ("REAL", "REAL"), ("FLOAT4", "FLOAT4"),
  ("FLOAT8", "FLOAT8"), ("FLOAT32", "Float32"), ("FLOAT64", "FLOAT64"), ("INT16", "Int16"),
  ("INT32", "Int32"), ("INT64", "INT64"), ("INT128", "Int128"), ("INT256", "Int256"),
  ("UINT8", "UInt8"), ("UINT16", "UInt16"), ("UINT32", "UInt32"), ("UINT64", "UInt64"),
  ("UINT128", "UInt128"), ("UINT256", "UInt256"), ("UUID", "UUID"), ("DATE", "DATE"),
  ("DATE32", "Date32"), ("JSON", "JSON"), ("JSONB", "JSONB"), ("REGCLASS", "REGCLASS"),
  ("TEXT", "TEXT"), ("BYTEA", "BYTEA"), ("TRIGGER", "TRIGGER")]

/-- The keywords of types that may have a size. -/
def sizedTypes : List String :=
  ["FLOAT", "CLOB", "BINARY", "VARBINARY", "BLOB", "BYTES", "DATETIME", "STRING"]

/-- The keywords of integer types, which may have a size and be unsigned. -/
def integerTypes : List String :=
  ["TINYINT", "INT2", "SMALLINT", "MEDIUMINT", "INT", "INT4", "INT8", "INTEGER", "BIGINT"]

/-- The keywords of types that may have a precision and a scale. -/
def exactTypes : List String := ["NUMERIC", "DECIMAL", "DEC", "BIGNUMERIC", "BIGDECIMAL"]

namespace Rule

/-- A size in parentheses, if there is one, in its written form. -/
def size? : Rule String := do
  if ← symbol? "(" then
    let n ← natural
    symbol ")"
    return "(" ++ toString n ++ ")"
  else return ""

/-- The length of a text type in parentheses, if there is one. -/
def length? : Rule String := do
  if ← symbol? "(" then
    if ← keyword? "MAX" then
      symbol ")"
      return "(MAX)"
    else
      let n ← natural
      let unit ← oneOf? ["CHARACTERS", "OCTETS"]
      symbol ")"
      match unit with
      | some unit => return "(" ++ toString n ++ " " ++ unit ++ ")"
      | none => return "(" ++ toString n ++ ")"
  else return ""

/-- A precision and perhaps a scale in parentheses, if there are any, with the given comma. -/
def precision? (comma : String) : Rule String := do
  if ← symbol? "(" then
    let n ← natural
    let text ← if ← symbol? "," then do
        let scale ← natural
        pure (toString n ++ comma ++ toString scale)
      else pure (toString n)
    symbol ")"
    return "(" ++ text ++ ")"
  else return ""

/-- The reference to time zones after a type of time. -/
def zone? : Rule String := do
  if ← keyword? "WITH" then
    keywords ["TIME", "ZONE"]
    return " WITH TIME ZONE"
  else if ← keyword? "WITHOUT" then
    keywords ["TIME", "ZONE"]
    return " WITHOUT TIME ZONE"
  else return ""

/-- A text type with the given keyword. -/
def textType (k : String) : Rule String := do
  if ← keyword? "VARYING" then return k ++ " VARYING" ++ (← length?)
  else if ← keywords? ["LARGE", "OBJECT"] then return k ++ " LARGE OBJECT" ++ (← size?)
  else return k ++ (← length?)

/-- What modifies a type that is not known: words, numbers and text in parentheses. -/
def modifiers? : Rule String := do
  if ← symbol? "(" then
    loop (fun before => do
      match ← next with
      | .word w => return .inl ((Token.word w).display :: before)
      | .number digits _ => return .inl (digits :: before)
      | .text .plain content => return .inl (content :: before)
      | .symbol "," => return .inl before
      | .symbol ")" =>
        return .inr (if before.isEmpty then "" else "(" ++ commas before.reverse ++ ")")
      | _ => mismatch) []
  else return ""

/-- Text literals in parentheses, for a type that lists its values. -/
def choices (k : String) : Rule String := do
  let values ← parenthesized (list do
    match ← next with
    | .text .plain content => return (Literal.text .plain content).render
    | _ => mismatch)
  return k ++ "(" ++ commas values ++ ")"

end Rule

/-- A type that has been read, and whether its last sign closes the type around it as well. -/
structure TypeStep where
  type : TypeName
  closed : Bool

namespace TypeStep

/-- A known type that closes no other. -/
def known (text : String) : TypeStep := ⟨.known text, false⟩

/-- The written form. -/
def text (s : TypeStep) : String := s.type.text

end TypeStep

namespace Rule

/-- A type that closes no other. -/
def separate (inner : Rule TypeStep) : Rule String := do
  let s ← inner
  if s.closed then mismatch else return s.text

/-- The sign that closes a type in angle brackets, unless the type inside has it already; whether it
closes the type around as well. -/
def closing (closed : Bool) : Rule Bool := do
  if closed then return false
  else if ← symbol? ">" then return false
  else
    symbol ">>"
    return true

/-- A field of a structured type: its name, if two words are next, and its type. -/
def field (inner : Rule TypeStep) : Rule TypeStep := do
  match ← ahead with
  | .word w :: .word _ :: _ =>
    skip 1
    let s ← inner
    return ⟨.known ((Name.ofWord w).render ++ " " ++ s.text), s.closed⟩
  | _ => inner

/-- The fields of a structured type between angle brackets, if there are any. -/
def fields? (inner : Rule TypeStep) : Rule (List String × Bool) := do
  if ← symbol? "<" then
    let (fields, closed) ← loop (fun before => do
      let s ← field inner
      if ← symbol? "," then
        if s.closed then mismatch else return .inl (s.text :: before)
      else return .inr ((s.text :: before).reverse, s.closed)) []
    return (fields, ← closing closed)
  else return ([], false)

/-- The written form of fields between angle brackets. -/
def renderFields (fields : List String) : String :=
  if fields.isEmpty then "" else "<" ++ commas fields ++ ">"

/-- A type with the given keyword, which has been taken; `inner` reads the types inside. -/
def typeAfter (inner : Rule TypeStep) (k : String) : Rule TypeStep := do
  match wholeTypes.lookup k with
  | some text => return .known text
  | none =>
    if sizedTypes.contains k then return .known (k ++ (← size?))
    else if integerTypes.contains k then
      let size ← size?
      if ← keyword? "UNSIGNED" then return .known (k ++ size ++ " UNSIGNED")
      else return .known (k ++ size)
    else if exactTypes.contains k then return .known (k ++ (← precision? ","))
    else match k with
      | "DOUBLE" =>
        if ← keyword? "PRECISION" then return .known "DOUBLE PRECISION" else return .known "DOUBLE"
      | "VARCHAR" | "NVARCHAR" => return .known (k ++ (← length?))
      | "CHARACTER" | "CHAR" => return .known (← textType k)
      | "TIMESTAMP" | "TIME" =>
        let size ← size?
        return .known (k ++ size ++ (← zone?))
      | "TIMESTAMPTZ" | "TIMETZ" => return .known (k ++ (← size?))
      | "DATETIME64" => return .known ("DateTime64" ++ (← parenthesized zoned))
      | "INTERVAL" => return ⟨.interval, false⟩
      | "FIXEDSTRING" =>
        return .known ("FixedString(" ++ toString (← parenthesized natural) ++ ")")
      | "ENUM" | "SET" => return .known (← choices k)
      | "ARRAY" =>
        symbol "<"
        let element ← inner
        let closed ← closing element.closed
        return ⟨.known ("ARRAY<" ++ element.text ++ ">"), closed⟩
      | "STRUCT" =>
        let (fields, closed) ← fields? inner
        return ⟨.known ("STRUCT" ++ renderFields fields), closed⟩
      | "NULLABLE" =>
        return .known ("Nullable(" ++ (← parenthesized (separate inner)) ++ ")")
      | "LOWCARDINALITY" =>
        return .known ("LowCardinality(" ++ (← parenthesized (separate inner)) ++ ")")
      | "MAP" =>
        symbol "("
        let key ← separate inner
        symbol ","
        let value ← separate inner
        symbol ")"
        return .known ("Map(" ++ key ++ ", " ++ value ++ ")")
      | "TUPLE" =>
        let fields ← parenthesized (list (field inner))
        return .known ("Tuple(" ++ commas (fields.map TypeStep.text) ++ ")")
      | "NESTED" =>
        let columns ← parenthesized (list (columnDefinition (separate inner)))
        return .known ("Nested(" ++ commas columns ++ ")")
      | "UNION" =>
        let members ← parenthesized (list do
          let n ← name
          return n.render ++ " " ++ (← separate inner))
        return .known ("UNION(" ++ commas members ++ ")")
      | _ => mismatch
where
  zoned : Rule String := do
    let n ← natural
    if ← symbol? "," then return "(" ++ toString n ++ ", '" ++ (← string) ++ "')"
    else return "(" ++ toString n ++ ")"

/-- The keywords that start a type of their own form. -/
def typeKeywords : List String :=
  wholeTypes.map (·.1) ++ sizedTypes ++ integerTypes ++ exactTypes ++
    ["DOUBLE", "VARCHAR", "NVARCHAR", "CHARACTER", "CHAR", "TIMESTAMP", "TIME", "TIMESTAMPTZ",
      "TIMETZ", "DATETIME64", "INTERVAL", "FIXEDSTRING", "ENUM", "SET", "ARRAY", "STRUCT",
      "NULLABLE", "LOWCARDINALITY", "MAP", "TUPLE", "NESTED", "UNION"]

/-- The brackets of an array type after the type of its elements. -/
def brackets (element : TypeStep) : Rule TypeStep :=
  loop (fun s => do
    if ← symbol? "[" then
      let size ← attempt natural
      symbol "]"
      let text := s.text ++ "[" ++ (size.map toString).getD "" ++ "]"
      return .inl { s with type := .known text }
    else return .inr s) element

/-- A type, which may close the type around it as well. -/
def typeStep : Rule TypeStep :=
  nest fun inner => do
    match ← ahead with
    | .word w :: _ =>
      let element ← if typeKeywords.contains w.keyword then do
          skip 1
          typeAfter inner w.keyword
        else do
          let parts ← path
          pure ⟨.custom (renderPath parts ++ (← modifiers?)), false⟩
      brackets element
    | _ => mismatch

/-- A type. -/
def typeName : Rule TypeName := do
  let s ← typeStep
  if s.closed then mismatch else return s.type

/-- A type in its written form. -/
def typeText : Rule String := return (← typeName).text

/-- A column with its type and its options. -/
def column : Rule String := columnDefinition typeText

end Rule

end BranchDistance.Sql
