import BranchDistance.Sql.Factor

/-!
# Patterns of rows

A table may be searched for sequences of rows that match a pattern.  A pattern consists of symbols,
each of which stands for a condition on a row, in sequence, as alternatives, and repeated.
-/

namespace BranchDistance.Sql

/-- The greatest number of repetitions that a pattern may name. -/
def repetitionMax : Nat := Nat.pow 2 32 - 1

namespace Rule

/-- A number of repetitions. -/
def repetitions : Rule String := return toString (← naturalTo repetitionMax)

/-- A range of repetitions, after the opening brace. -/
def repetitionRange : Rule String := do
  if ← symbol? "," then
    let most ← repetitions
    symbol "\x7d"
    return "\x7b," ++ most ++ "\x7d"
  else
    let least ← repetitions
    if ← symbol? "," then
      if ← symbol? "\x7d" then return "\x7b" ++ least ++ ",\x7d"
      else
        let most ← repetitions
        symbol "\x7d"
        return "\x7b" ++ least ++ "," ++ most ++ "\x7d"
    else
      symbol "\x7d"
      return "\x7b" ++ least ++ "\x7d"

/-- How often a pattern is repeated, if it is. -/
def quantifier? : Rule (Option String) := do
  match ← ahead with
  | .symbol "*" :: _ => skip 1; return some "*"
  | .symbol "+" :: _ => skip 1; return some "+"
  | .placeholder "?" :: _ => skip 1; return some "?"
  | .symbol "\x7b" :: _ => skip 1; return some (← repetitionRange)
  | _ => return none

/-- A pattern without repetition; `inner` reads the patterns inside. -/
def patternPart (inner : Rule String) : Rule String := do
  match ← ahead with
  | .symbol "^" :: _ => skip 1; return "^"
  | .placeholder "$" :: _ => skip 1; return "$"
  | .symbol "\x7b" :: _ =>
    skip 1
    symbol "-"
    let n ← name
    symbol "-"
    symbol "\x7d"
    return "\x7b- " ++ n.render ++ " -\x7d"
  | .symbol "(" :: _ =>
    let text ← parenthesized inner
    return "( " ++ text ++ " )"
  | .word ⟨"PERMUTE", none, _⟩ :: _ =>
    skip 1
    return "PERMUTE" ++ (← nameList)
  | _ => return (← name).render

/-- A pattern. -/
def pattern : Rule String :=
  nest fun inner =>
    loop (fun before => do
      let part ← patternPart inner
      let text := before ++ part ++ String.join (← many quantifier?)
      if ← symbol? "|" then return .inl (text ++ " | ")
      else if ← atSymbol ")" then return .inr text
      else return .inl (text ++ " ")) ""

/-- How many rows each match gives, if that is said. -/
def rowsPerMatch? : Rule String := do
  if ← keywords? ["ONE", "ROW", "PER", "MATCH"] then return "ONE ROW PER MATCH"
  else if ← keywords? ["ALL", "ROWS", "PER", "MATCH"] then
    let unmatched ← if ← keywords? ["SHOW", "EMPTY", "MATCHES"] then pure "SHOW EMPTY MATCHES"
      else if ← keywords? ["OMIT", "EMPTY", "MATCHES"] then pure "OMIT EMPTY MATCHES"
      else if ← keywords? ["WITH", "UNMATCHED", "ROWS"] then pure "WITH UNMATCHED ROWS"
      else pure ""
    return words ["ALL ROWS PER MATCH", unmatched]
  else return ""

/-- Where the search goes on after a match, if that is said. -/
def afterMatch? : Rule String := do
  if ← keywords? ["AFTER", "MATCH", "SKIP"] then
    if ← keywords? ["PAST", "LAST", "ROW"] then return "AFTER MATCH SKIP PAST LAST ROW"
    else if ← keywords? ["TO", "NEXT", "ROW"] then return "AFTER MATCH SKIP  TO NEXT ROW"
    else if ← keywords? ["TO", "FIRST"] then return "AFTER MATCH SKIP TO FIRST " ++ (← name).render
    else
      keywords ["TO", "LAST"]
      return "AFTER MATCH SKIP TO LAST " ++ (← name).render
  else return ""

/-- The values that are measured on each match, if there are any. -/
def measures? : Rule String := do
  if ← keyword? "MEASURES" then
    let ms ← list do
      let e ← expr
      discard (keyword? "AS")
      return e.render ++ " AS " ++ (← name).render
    return "MEASURES " ++ commas ms
  else return ""

/-- A table searched for a pattern, after its keyword. -/
def matchedRows (f : Factor) : Rule Factor := do
  let text ← parenthesized do
    let parts ← partition?
    let order ← order?
    let measures ← measures?
    let rows ← rowsPerMatch?
    let next ← afterMatch?
    keyword "PATTERN"
    let pattern ← parenthesized pattern
    keyword "DEFINE"
    let symbols ← list do
      let n ← name
      keyword "AS"
      return n.render ++ " AS " ++ (← expr).render
    return words [parts, order, measures, rows, next, "PATTERN (" ++ pattern ++ ") DEFINE " ++
      commas symbols]
  labelled (f.render ++ " MATCH_RECOGNIZE(" ++ text ++ ")")

end Rule

end BranchDistance.Sql
