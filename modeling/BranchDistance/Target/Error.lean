/-!
# Why a text has no target

A condition text may be empty, too large or malformed, or use constructs that conditions do not
have.
-/

namespace BranchDistance

/-- What is wrong with a text that is no SQL. -/
inductive Malformation where
  /-- A quotation or a comment does not end, or an escape names no character. -/
  | unterminated
  /-- The tokens form no expression or statement. -/
  | unexpected
  /-- Expressions or queries nest too deeply. -/
  | tooDeep
  deriving DecidableEq

/-- The message of a malformation.  It says which of the three it is, and neither where the text is
wrong nor what could stand there. -/
def Malformation.message : Malformation → String
  | unterminated => "unterminated token"
  | unexpected => "unexpected token"
  | tooDeep => "recursion limit exceeded"

/-- What the size of a text is measured in. -/
inductive Measure where
  | bytes
  | tokens
  deriving DecidableEq

/-- The name of a measure. -/
def Measure.name : Measure → String
  | bytes => "bytes"
  | tokens => "tokens"

/-- The greatest size that is accepted. -/
def Measure.limit : Measure → Nat
  | bytes => 65536
  | tokens => 4096

/-- Why a text has no target. -/
inductive TargetError where
  | empty
  | malformed (m : Malformation)
  /-- An expression ends before the text does. -/
  | trailing (token : String)
  | statementCount (count : Nat)
  | unsupportedStatement (statement : String)
  | unsupportedCondition (construct : String)
  | unsupportedExpression (construct : String)
  | invalidNumber (digits : String)
  | tooLarge (measure : Measure) (size : Nat)
  deriving DecidableEq

namespace TargetError

/-- The message of an error. -/
def message : TargetError → String
  | empty => "condition text is empty"
  | malformed m => "sql parse error: " ++ m.message
  | trailing token => "unexpected trailing input starting at '" ++ token ++ "'"
  | statementCount count => "expected exactly one statement, found " ++ toString count
  | unsupportedStatement statement => "unsupported statement: " ++ statement
  | unsupportedCondition construct => "unsupported condition: " ++ construct
  | unsupportedExpression construct => "unsupported expression: " ++ construct
  | invalidNumber digits => "invalid numeric literal '" ++ digits ++ "'"
  | tooLarge measure size =>
    "condition too large: " ++ toString size ++ " " ++ measure.name ++ " exceeds the limit of " ++
      toString measure.limit

/-- Whether the text is no SQL condition at all, and not only one of a kind that is not supported.
-/
def isMalformed : TargetError → Bool
  | malformed _ => true
  | trailing _ => true
  | _ => false

end TargetError

end BranchDistance
