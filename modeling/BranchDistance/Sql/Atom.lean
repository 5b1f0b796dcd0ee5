import BranchDistance.Count
import BranchDistance.Decimal.Basic
import BranchDistance.Sql.Rule

/-!
# Names, numbers and literals

The parts of the grammar in which nothing nests.
-/

namespace BranchDistance.Sql

/-- Joins the parts of a text that are not empty with blanks. -/
def words (parts : List String) : String := String.intercalate " " (parts.filter (· ≠ ""))

/-- A text after a blank, if there is one. -/
def spaced (text : String) : String := if text = "" then "" else " " ++ text

/-- Texts with commas between them. -/
def commas (parts : List String) : String := String.intercalate ", " parts

namespace Rule

/-- A name: a word, or text in quotes. -/
def name : Rule Name := do
  match ← next with
  | .word w => return .ofWord w
  | .text .plain content => return ⟨content, some '\''⟩
  | _ => mismatch

/-- Names with points between them. -/
def path : Rule (List Name) :=
  loop (fun before => do
    let n ← name
    if ← symbol? "." then return .inl (n :: before)
    else return .inr (n :: before).reverse) []

/-- Names in parentheses with commas between them. -/
def names : Rule (List Name) := parenthesized (list name)

/-- Names in parentheses with commas between them, in their written form. -/
def nameList : Rule String := return "(" ++ commas ((← names).map Name.render) ++ ")"

/-- Names in parentheses, if a parenthesis is next, in their written form. -/
def nameList? : Rule String := do
  if ← atSymbol "(" then nameList else return ""

/-- A natural number up to a limit. -/
def naturalTo (limit : Nat) : Rule Nat := do
  match ← next with
  | .number digits _ =>
    let cs := digits.toList
    let n := Decimal.ofDigits cs
    if cs.all Char.isDigit ∧ n ≤ limit then return n else mismatch
  | _ => mismatch

/-- A natural number of at most 64 binary digits. -/
def natural : Rule Nat := naturalTo countMax

/-- A text literal, or a word that is no keyword. -/
def string : Rule String := do
  match ← next with
  | .word w => if Sql.keywords.contains w.keyword then mismatch else return w.text
  | .text .plain content => return content
  | .text .escaped content => return content
  | .text .unicode content => return content
  | _ => mismatch

/-- A placeholder that is introduced by a sign, after it. -/
def signedPlaceholder (sign : String) : Rule Literal := do
  match ← next with
  | .word w => return .placeholder (sign ++ w.text)
  | .number digits false => return .placeholder (sign ++ digits)
  | _ => mismatch

/-- A literal alone: a number, text, a truth value, null or a placeholder. -/
def literal : Rule Literal := do
  match ← next with
  | .number digits long => return .number digits long
  | .text style content => return .text style content
  | .placeholder name => return .placeholder name
  | .symbol ":" => signedPlaceholder ":"
  | .symbol "@" => signedPlaceholder "@"
  | .word w =>
    match w.keyword with
    | "TRUE" => return .bool true
    | "FALSE" => return .bool false
    | "NULL" => return .null
    | _ => mismatch
  | _ => mismatch

/-- A literal, or text in double quotes, in its written form. -/
def value : Rule String := do
  match ← ahead with
  | .word ⟨text, some '"', _⟩ :: _ =>
    skip 1
    return (Name.mk text (some '"')).render
  | _ => return (← literal).render

/-- A number or a placeholder in its written form. -/
def numeral : Rule String := do
  match ← literal with
  | .number digits long => return (Literal.number digits long).render
  | .placeholder name => return name
  | _ => mismatch

/-- A number or a placeholder, perhaps with a sign, in its written form. -/
def signedNumeral : Rule String := do
  if ← symbol? "+" then return "+" ++ (← numeral)
  else if ← symbol? "-" then return "-" ++ (← numeral)
  else numeral

/-- A setting with its value. -/
def setting : Rule String := do
  let n ← name
  symbol "="
  return n.render ++ " = " ++ (← value)

/-- Settings after their keyword, if there are any. -/
def settings? : Rule String := do
  if ← keyword? "SETTINGS" then return "SETTINGS " ++ commas (← list setting) else return ""

/-- Takes the first of some keywords that is next, if there is one. -/
def pass (ks : List String) : Rule Unit := discard (oneOf? ks)

/-- Takes `IF EXISTS` if it is next. -/
def ifExists : Rule Unit := discard (keywords? ["IF", "EXISTS"])

/-- Takes `IF NOT EXISTS` if it is next. -/
def ifNotExists : Rule Unit := discard (keywords? ["IF", "NOT", "EXISTS"])

end Rule

end BranchDistance.Sql
