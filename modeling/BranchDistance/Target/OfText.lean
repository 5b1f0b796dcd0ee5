import BranchDistance.Sql.Grammar
import BranchDistance.Sql.Scan
import BranchDistance.Target
import BranchDistance.Target.OfExpr

/-!
# From text to targets

A condition text is an expression, or one statement of which the condition and the sources count.
Which of the two it is, its first word decides.
-/

namespace BranchDistance

open Sql (Expr Token)

namespace Sql

/-- The malformation that a fault of the grammar is. -/
def Fault.malformation : Fault → Malformation
  | mismatch => .unexpected
  | tooDeep => .tooDeep

end Sql

namespace Target

/-- The words that start a statement. -/
def statementWords : List String := ["select", "update", "delete", "with"]

/-- Whether a text starts with a word that starts a statement. -/
def startsStatement (text : List Char) : Bool :=
  let word := text.takeWhile fun c => !(Text.isBlank c || c == '(')
  statementWords.contains (String.ofList (Text.fold word))

/-- Refuses a size above the limit of its measure. -/
def withinLimit (measure : Measure) (size : Nat) : Except TargetError Unit :=
  if measure.limit < size then .error (.tooLarge measure size) else .ok ()

/-- The tokens of a text within the limits. -/
def tokens? (text : String) : Except TargetError (List Token) := do
  withinLimit .bytes text.utf8ByteSize
  match Sql.scan text.toList with
  | none => .error (.malformed .unterminated)
  | some ts =>
    withinLimit .tokens ts.length
    return ts

/-- The target of the tokens of an expression, all of which belong to it. -/
def ofExprTokens? (ts : List Token) : Except TargetError Target :=
  match Sql.readExpr ts with
  | .error fault => .error (.malformed fault.malformation)
  | .ok (_, next :: _) => .error (.trailing next.display)
  | .ok (e, []) => return ofCondition (← Condition.ofExpr? e)

/-- The short names of all sources. -/
def aliasesOf (sources : List Sql.Source) : Aliases :=
  (sources.flatMap (·.bindings)).foldl
    (fun aliases (name, table) => aliases.insert (Text.casefold name) (Text.casefold table))
    Aliases.empty

/-- The target of a statement.  The word that starts a text of one statement makes it a query, an
update or a deletion, so no text comes to the last two cases and their errors name no kind. -/
def ofStatement? : Sql.Statement → Except TargetError Target
  | .onRows selection sources => do
    let condition ← selection.mapM Condition.ofExpr?
    return ⟨condition, aliasesOf sources, queryOver (sources.map (·.text))⟩
  | .compound body => .error (.unsupportedStatement ("set expression '" ++ body ++ "'"))
  | .description => .error (.unsupportedStatement "")
  | .other => .error (.unsupportedStatement "")

/-- The target of the tokens of a statement. -/
def ofStatementTokens? (ts : List Token) : Except TargetError Target :=
  match Sql.readStatements ts with
  | .error fault => .error (.malformed fault.malformation)
  | .ok ([statement], _) => ofStatement? statement
  | .ok (statements, _) => .error (.statementCount statements.length)

/-- The target of a condition text. -/
def ofText? (text : String) : Except TargetError Target := do
  let text := Text.trimmed text
  if text.isEmpty then .error .empty
  else
    let ts ← tokens? text
    if startsStatement text.toList then ofStatementTokens? ts else ofExprTokens? ts

end Target

end BranchDistance
