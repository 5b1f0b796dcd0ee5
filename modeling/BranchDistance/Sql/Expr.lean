import BranchDistance.Condition
import BranchDistance.Sql.Token
import BranchDistance.Text.Quoted

/-!
# SQL expressions

The expressions that conditions are made from.  Constructs that never become part of a condition,
and all subqueries, are kept as the text in which they are written again; every expression has
such a text.
-/

namespace BranchDistance.Sql

/-- The content of a quotation with its quotes doubled.  A pair of quotes stays a pair, and quotes
after a backslash stay as they are until another character follows. -/
def doubleQuotes (quote : Char) : (afterBackslash : Bool) → List Char → List Char
  | _, [] => []
  | afterBackslash, c :: rest =>
    if c = quote then
      if afterBackslash then c :: doubleQuotes quote true rest
      else match rest with
        | d :: after =>
          if d = quote then c :: c :: doubleQuotes quote false after
          else c :: c :: doubleQuotes quote false (d :: after)
        | [] => [c, c]
    else c :: doubleQuotes quote (c == '\\') rest

/-- The content of an escaped literal with its backslash escapes. -/
def backslashEscapes (c : Char) : List Char :=
  match c with
  | '\'' => ['\\', '\'']
  | '\\' => ['\\', '\\']
  | '\n' => ['\\', 'n']
  | '\t' => ['\\', 't']
  | '\r' => ['\\', 'r']
  | c => [c]

/-- A number in capital hexadecimal digits, filled with zeros to a width. -/
def paddedHex (width n : Nat) : List Char :=
  let digits := (Text.hex n).map Char.toUpper
  List.replicate (width - digits.length) '0' ++ digits

/-- The content of a literal with numbered characters. -/
def numberEscapes (c : Char) : List Char :=
  match c with
  | '\'' => ['\'', '\'']
  | '\\' => ['\\', '\\']
  | c =>
    if c.toNat < 128 then [c]
    else if c.toNat < 65536 then '\\' :: paddedHex 4 c.toNat
    else '\\' :: '+' :: paddedHex 6 c.toNat

/-- One part of a name. -/
structure Name where
  text : String
  quote : Option Char
  deriving DecidableEq

namespace Name

/-- The name that a word is. -/
def ofWord (w : Word) : Name := ⟨w.text, w.quote⟩

/-- The written form, with its quotes if it has any. -/
def render (n : Name) : String :=
  match n.quote with
  | some q => String.ofList (q :: doubleQuotes q false n.text.toList ++ [q])
  | none => n.text

end Name

/-- A name of several parts, written with points between them. -/
def renderPath (parts : List Name) : String := String.intercalate "." (parts.map Name.render)

/-- A literal. -/
inductive Literal where
  | number (digits : String) (long : Bool)
  | text (style : TextStyle) (content : String)
  | bool (b : Bool)
  | null
  | placeholder (name : String)
  deriving DecidableEq

/-- The written form of a literal. -/
def Literal.render : Literal → String
  | number digits long => if long then digits ++ "L" else digits
  | text style content =>
    let inner := match style with
      | .plain => String.ofList (doubleQuotes '\'' false content.toList)
      | .escaped => String.ofList (content.toList.flatMap backslashEscapes)
      | .unicode => String.ofList (content.toList.flatMap numberEscapes)
      | _ => content
    style.fences.1 ++ inner ++ style.fences.2
  | bool b => if b then "true" else "false"
  | null => "NULL"
  | placeholder name => name

/-- The signs that stand before one operand. -/
inductive Leading where
  | plus
  | minus
  | not
  deriving DecidableEq, Repr

/-- The signs and words that stand between two operands. -/
inductive Connective where
  | and
  | or
  | relation (r : Relation)
  | operation (o : Operation)
  | other (sign : String)
  deriving DecidableEq

/-- The written form of what stands between two operands. -/
def Connective.render : Connective → String
  | and => "AND"
  | or => "OR"
  | relation r => r.symbol
  | operation o => o.symbol
  | other sign => sign

/-- The tests written with `IS`. -/
inductive Test where
  | null
  | true
  | false
  deriving DecidableEq, Repr

/-- The word of a test. -/
def Test.word : Test → String
  | null => "NULL"
  | true => "TRUE"
  | false => "FALSE"

/-- The spellings of a conversion to a type. -/
inductive CastForm where
  /-- A word with the operand and the type in parentheses. -/
  | call (word : String)
  /-- Two colons and the type after the operand. -/
  | colons
  deriving DecidableEq

/-- An expression. -/
inductive Expr where
  | path (parts : List Name)
  | literal (l : Literal)
  /-- A text literal after the name of its type. -/
  | typed (type content : String)
  | nested (inner : Expr)
  | cast (form : CastForm) (inner : Expr) (type : String)
  | leading (sign : Leading) (inner : Expr)
  | between (inner : Expr) (negated : Bool) (low high : Expr)
  | binary (left : Expr) (op : Connective) (right : Expr)
  | is (inner : Expr) (negated : Bool) (test : Test)
  | inList (inner : Expr) (negated : Bool) (list : List Expr)
  | inQuery (inner : Expr) (negated : Bool) (query : String)
  | exists (negated : Bool) (query : String)
  /-- A comparison with a pattern, perhaps with any of several, and the escape of its signs. -/
  | like (inner : Expr) (negated : Bool) (foldCase : Bool) (any : Bool) (pattern : Expr)
      (escape : Option String)
  /-- A query whose rows stand for a value. -/
  | subquery (query : String)
  /-- A construct that is no part of a condition, as it is written. -/
  | other (text : String)
  deriving Inhabited

/-- A word that stands only in the negated form, with a blank after it. -/
def negation (negated : Bool) : String := if negated then "NOT " else ""

/-- The words between an operand and its pattern.  No blank stands before a pattern that has an
escape, if case is folded and any of several patterns may match. -/
def likeWords (foldCase any escaped : Bool) : String :=
  match foldCase, any with
  | false, false => "LIKE "
  | false, true => "LIKE ANY "
  | true, false => "ILIKE "
  | true, true => if escaped then "ILIKE ANY" else "ILIKE ANY "

mutual

/-- The written form of an expression. -/
def Expr.render : Expr → String
  | .path parts => renderPath parts
  | .literal l => l.render
  | .typed type content => type ++ " " ++ (Literal.text .plain content).render
  | .nested inner => "(" ++ inner.render ++ ")"
  | .cast (.call word) inner type => word ++ "(" ++ inner.render ++ " AS " ++ type ++ ")"
  | .cast .colons inner type => inner.render ++ "::" ++ type
  | .leading .plus inner => "+" ++ inner.render
  | .leading .minus inner => "-" ++ inner.render
  | .leading .not inner => "NOT " ++ inner.render
  | .between inner negated low high =>
    inner.render ++ " " ++ negation negated ++ "BETWEEN " ++ low.render ++ " AND " ++ high.render
  | .binary left op right => left.render ++ " " ++ op.render ++ " " ++ right.render
  | .is inner negated test => inner.render ++ " IS " ++ negation negated ++ test.word
  | .inList inner negated list =>
    inner.render ++ " " ++ negation negated ++ "IN (" ++
      String.intercalate ", " (renderAll list) ++ ")"
  | .inQuery inner negated query =>
    inner.render ++ " " ++ negation negated ++ "IN (" ++ query ++ ")"
  | .exists negated query => negation negated ++ "EXISTS (" ++ query ++ ")"
  | .like inner negated foldCase any pattern escape =>
    inner.render ++ " " ++ negation negated ++ likeWords foldCase any escape.isSome ++
      pattern.render ++
      match escape with
      | some c => " ESCAPE '" ++ c ++ "'"
      | none => ""
  | .subquery query => "(" ++ query ++ ")"
  | .other text => text

/-- The written forms of several expressions. -/
def renderAll : List Expr → List String
  | [] => []
  | e :: rest => e.render :: renderAll rest

end

/-- The written forms of several expressions with commas between them. -/
def renderList (es : List Expr) : String := String.intercalate ", " (renderAll es)

end BranchDistance.Sql
