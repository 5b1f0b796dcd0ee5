import BranchDistance.Sql.Operand

/-!
# Operators

What may follow an operand: the operators with their strengths, and the longer forms that take an
operand on their left.  An expression is an operand and all operators after it that bind more
strongly than its surroundings.
-/

namespace BranchDistance.Sql

/-- The strength of the operator that starts a list of tokens; zero if there is none. -/
def strengthAhead : List Token → Nat
  | [] => 0
  | .symbol s :: _ =>
    match s with
    | "=" | "==" | "<>" | "<" | "<=" | ">" | ">=" | "<=>"
    | "~" | "~*" | "!~" | "!~*" | "~~" | "~~*" | "!~~" | "!~~*" => Strength.comparison
    | "|" => Strength.bitOr
    | "^" | "#" | "<<" | ">>" => Strength.bitXor
    | "&" => Strength.bitAnd
    | "+" | "-" => Strength.sum
    | "*" | "/" | "//" | "%" | "||" => Strength.product
    | "::" | "!" | "[" | "&&" | "^@" => Strength.cast
    | "->" | "->>" | "#>" | "#>>" | "@>" | "<@" | "#-" | "@?" | "@@" => Strength.sign
    | _ => 0
  | t :: rest =>
    match t.keyword with
    | "OR" => Strength.or
    | "AND" => Strength.and
    | "XOR" => Strength.xor
    | "AT" => if Rule.startsWith ["TIME", "ZONE"] rest then Strength.timeZone else 0
    | "NOT" =>
      match rest with
      | u :: _ =>
        match u.keyword with
        | "IN" | "BETWEEN" => Strength.comparison
        | "LIKE" | "ILIKE" | "RLIKE" | "REGEXP" | "SIMILAR" => Strength.like
        | _ => 0
      | [] => 0
    | "IS" => Strength.is
    | "IN" | "BETWEEN" | "OPERATOR" => Strength.comparison
    | "LIKE" | "ILIKE" | "RLIKE" | "REGEXP" | "SIMILAR" => Strength.like
    -- a word with a strength, but no operator: nothing can follow it
    | "DIV" => Strength.product
    | _ => 0

/-- The operator that a sign is. -/
def connective? (sign : String) : Option Connective :=
  match sign with
  | "=" | "==" => some (.relation .eq)
  | "<>" => some (.relation .ne)
  | "<" => some (.relation .lt)
  | "<=" => some (.relation .le)
  | ">" => some (.relation .gt)
  | ">=" => some (.relation .ge)
  | "+" => some (.operation .add)
  | "-" => some (.operation .subtract)
  | "*" => some (.operation .multiply)
  | "/" => some (.operation .divide)
  | "%" => some (.operation .modulo)
  | "#" | "!" | "[" | "::" => none
  | sign => some (.other sign)

namespace Rule

/-- A sign or word between two operands, if one is next. -/
def connectiveAhead? : Rule (Option Connective) := do
  match ← ahead with
  | .symbol s :: _ =>
    match connective? s with
    | some c => skip 1; return some c
    | none => return none
  | t :: _ =>
    match t.keyword with
    | "AND" => skip 1; return some .and
    | "OR" => skip 1; return some .or
    | "XOR" => skip 1; return some (.other "XOR")
    | "OPERATOR" =>
      skip 1
      symbol "("
      let parts ← loop (fun before => do
        let t ← next
        if ← symbol? "." then return .inl (t.display :: before)
        else return .inr (t.display :: before).reverse) []
      symbol ")"
      return some (.other ("OPERATOR(" ++ String.intercalate "." parts ++ ")"))
    | _ => return none
  | [] => return none

/-- The values that an operator with `ANY`, `ALL` or `SOME` is applied to, in parentheses: a
query, or an expression. -/
def quantified (strength : Nat) : Rule String := do
  match ← ahead with
  | .symbol "(" :: t :: _ =>
    if t.keyword == "SELECT" || t.keyword == "WITH" then
      match ← operand strength with
      | .subquery query => return (Expr.subquery query).render
      | right => return "(" ++ right.render ++ ")"
    else return "(" ++ (← parenthesized (operand strength)).render ++ ")"
  | _ => mismatch

/-- The right side of an operator: an operand, or values with a word for how many of them count. -/
def afterConnective (left : Expr) (op : Connective) (strength : Nat) : Rule Expr := do
  match ← oneOf? ["ANY", "ALL", "SOME"] with
  | none => return .binary left op (← operand strength)
  | some k =>
    let right ← quantified strength
    match op with
    | .relation r => return .other (left.render ++ " " ++ r.symbol ++ " " ++ k ++ right)
    | _ => mismatch

/-- What follows `IS`. -/
def afterIs (e : Expr) : Rule Expr := do
  let negated ← keyword? "NOT"
  match ← oneOf? ["NULL", "TRUE", "FALSE", "UNKNOWN", "DISTINCT"] with
  | some "NULL" => return .is e negated .null
  | some "TRUE" => return .is e negated .true
  | some "FALSE" => return .is e negated .false
  | some "UNKNOWN" => return .other (e.render ++ " IS " ++ negation negated ++ "UNKNOWN")
  | some "DISTINCT" =>
    keyword "FROM"
    return .other (e.render ++ " IS " ++ negation negated ++ "DISTINCT FROM " ++ (← expr).render)
  | _ => mismatch

/-- What follows `IN`. -/
def afterIn (e : Expr) (negated : Bool) : Rule Expr := do
  if ← keyword? "UNNEST" then
    let array ← parenthesized expr
    return .other (e.render ++ " " ++ negation negated ++ "IN UNNEST(" ++ array.render ++ ")")
  else
    symbol "("
    let result ← if ← atQuery then pure (.inQuery e negated (← query).text)
      else pure (.inList e negated (← list expr))
    symbol ")"
    return result

/-- What follows `BETWEEN`. -/
def afterBetween (e : Expr) (negated : Bool) : Rule Expr := do
  let low ← operand Strength.comparison
  keyword "AND"
  return .between e negated low (← operand Strength.comparison)

/-- What follows `LIKE` or `ILIKE`. -/
def afterLike (e : Expr) (negated foldCase : Bool) : Rule Expr := do
  let any ← keyword? "ANY"
  let pattern ← operand Strength.like
  return .like e negated foldCase any pattern (← after? "ESCAPE" string)

/-- The longer forms that may be negated. -/
def predicate (e : Expr) : Rule Expr := do
  let negated ← keyword? "NOT"
  let regexp ← keyword? "REGEXP"
  let rlike ← keyword? "RLIKE"
  if regexp || rlike then
    let word := if regexp then "REGEXP " else "RLIKE "
    return .other (e.render ++ " " ++ negation negated ++ word ++
      (← operand Strength.like).render)
  else match ← oneOf ["IN", "BETWEEN", "LIKE", "ILIKE", "SIMILAR"] with
    | "IN" => afterIn e negated
    | "BETWEEN" => afterBetween e negated
    | "LIKE" => afterLike e negated false
    | "ILIKE" => afterLike e negated true
    | _ =>
      keyword "TO"
      let pattern ← operand Strength.like
      let escape ← after? "ESCAPE" string
      return .other (e.render ++ " " ++ negation negated ++ "SIMILAR TO " ++ pattern.render ++
        ((escape.map fun c => " ESCAPE '" ++ c ++ "'").getD ""))

/-- The rest of a range in brackets, after what is written in `start`. -/
def range (start : String) : Rule String := do
  if ← symbol? "]" then return start ++ "]"
  else
    let text := start ++ (← expr).render
    if ← symbol? "]" then return text ++ "]"
    else
      symbol ":"
      if ← symbol? "]" then return text ++ "]"
      else
        let stride ← expr
        symbol "]"
        return text ++ ":" ++ stride.render ++ "]"

/-- An index or a range in brackets, after the opening one. -/
def index : Rule String := do
  if ← symbol? ":" then range "[:"
  else
    let text := "[" ++ (← expr).render
    if ← symbol? "]" then return text ++ "]"
    else
      symbol ":"
      range (text ++ ":")

/-- The operator that is next, applied to the operand on its left. -/
def operator (e : Expr) (strength : Nat) : Rule Expr := do
  match ← connectiveAhead? with
  | some op => afterConnective e op strength
  | none =>
    match ← ahead with
    | .symbol "::" :: _ =>
      skip 1
      return .cast .colons e (← typeText)
    | .symbol "!" :: _ =>
      skip 1
      return .other (e.render ++ "!")
    | .symbol "[" :: _ =>
      skip 1
      return .other (e.render ++ (← index))
    | t :: _ =>
      match t.keyword with
      | "IS" => skip 1; afterIs e
      | "AT" =>
        skip 3
        return .other (e.render ++ " AT TIME ZONE " ++ (← operand strength).render)
      | _ => predicate e
    | [] => mismatch

/-- An expression whose operators all bind more strongly than `strength`. -/
def expression (strength : Nat) : Rule Expr := do
  loop (fun e => do
    let ahead := strengthAhead (← ahead)
    if ahead ≤ strength then return .inr e else return .inl (← operator e ahead))
    (← leadingOperand)

end Rule

end BranchDistance.Sql
