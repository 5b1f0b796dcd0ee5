/-!
# Tokens of SQL text

The words, literals and signs of SQL text, and how each is written.  A keyword is a word without
quotes; it is recognised by its spelling in capitals.
-/

namespace BranchDistance.Sql

/-- A name or keyword. -/
structure Word where
  text : String
  /-- The quote around the name, if it has one. -/
  quote : Option Char
  /-- The spelling in capitals; empty for a quoted name, which is never a keyword. -/
  keyword : String
  deriving DecidableEq

/-- How a text literal is introduced. -/
inductive TextStyle where
  | plain
  | national
  | escaped
  | unicode
  | hexadecimal
  /-- Bytes between the given quotes. -/
  | bytes (quote : String)
  /-- Text between the given quotes, without escapes. -/
  | raw (quote : String)
  /-- Text between two copies of a tag in dollar signs. -/
  | dollar (tag : String)
  deriving DecidableEq

/-- The text around the content of a literal. -/
def TextStyle.fences : TextStyle → String × String
  | plain => ("'", "'")
  | national => ("N'", "'")
  | escaped => ("E'", "'")
  | unicode => ("U&'", "'")
  | hexadecimal => ("X'", "'")
  | bytes quote => ("B" ++ quote, quote)
  | raw quote => ("R" ++ quote, quote)
  | dollar tag => ("$" ++ tag ++ "$", "$" ++ tag ++ "$")

/-- One token.  Blanks and comments are not tokens. -/
inductive Token where
  | word (w : Word)
  /-- Digits with an optional point and exponent, and whether they are marked as long. -/
  | number (digits : String) (long : Bool)
  | text (style : TextStyle) (content : String)
  | placeholder (name : String)
  | symbol (sign : String)
  /-- A character that belongs to no other token. -/
  | stray (c : Char)
  deriving DecidableEq

namespace Token

/-- The token as messages show it, with its content as read. -/
def display : Token → String
  | word w =>
    match w.quote with
    | some q => q.toString ++ w.text ++ q.toString
    | none => w.text
  | number digits long => if long then digits ++ "L" else digits
  | text style content => style.fences.1 ++ content ++ style.fences.2
  | placeholder name => name
  | symbol sign => sign
  | stray c => c.toString

/-- The spelling in capitals of a word without quotes; empty for all else. -/
def keyword : Token → String
  | word w => w.keyword
  | _ => ""

end Token

/-- The capitals of one letter, as far as they are letters of the Latin alphabet. -/
def capitals (c : Char) : List Char :=
  match c with
  | 'ı' => ['I']
  | 'ſ' => ['S']
  | 'ß' => ['S', 'S']
  | 'ﬀ' => ['F', 'F']
  | 'ﬁ' => ['F', 'I']
  | 'ﬂ' => ['F', 'L']
  | 'ﬃ' => ['F', 'F', 'I']
  | 'ﬄ' => ['F', 'F', 'L']
  | 'ﬅ' => ['S', 'T']
  | 'ﬆ' => ['S', 'T']
  | c => [c.toUpper]

/-- The word spelled by some characters without quotes. -/
def Word.unquoted (cs : List Char) : Word :=
  ⟨String.ofList cs, none, String.ofList (cs.flatMap capitals)⟩

/-- The word spelled by some characters between quotes. -/
def Word.quoted (quote : Char) (cs : List Char) : Word := ⟨String.ofList cs, some quote, ""⟩

end BranchDistance.Sql
