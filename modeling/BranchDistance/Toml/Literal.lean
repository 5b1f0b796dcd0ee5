import BranchDistance.Decimal.Reading
import BranchDistance.Text.Digits
import BranchDistance.Toml.Table

/-!
# Literals of TOML

Line ends, texts, numbers and keys: the parts of a TOML document in which nothing nests.
-/

namespace BranchDistance

namespace Toml

/-- The text without the blanks at its start. -/
def skipBlanks (cs : List Char) : List Char := cs.dropWhile fun c => c = ' ' ∨ c = '\t'

/-- Whether a character may stand in a comment or a text. -/
def isPlain (c : Char) : Bool := c = '\t' || (32 ≤ c.toNat && c.toNat != 127)

/-- The text after a line break. -/
def lineBreak? : List Char → Option (List Char)
  | '\n' :: rest => some rest
  | '\r' :: '\n' :: rest => some rest
  | _ => none

/-- The text after the end of a line, before which a comment may stand. -/
def lineEnd? (cs : List Char) : Option (List Char) :=
  let rest := match skipBlanks cs with
    | '#' :: comment => comment.dropWhile isPlain
    | rest => rest
  if rest.isEmpty then some [] else lineBreak? rest

/-! ### Texts -/

/-- The character of an escape, after its backslash. -/
def escape? : List Char → Option (Char × List Char)
  | 'b' :: rest => some ('\x08', rest)
  | 't' :: rest => some ('\t', rest)
  | 'n' :: rest => some ('\n', rest)
  | 'f' :: rest => some ('\x0c', rest)
  | 'r' :: rest => some ('\r', rest)
  | 'e' :: rest => some ('\x1b', rest)
  | '"' :: rest => some ('"', rest)
  | '\\' :: rest => some ('\\', rest)
  | 'x' :: rest => numbered 2 rest
  | 'u' :: rest => numbered 4 rest
  | 'U' :: rest => numbered 8 rest
  | _ => none
where
  numbered (count : Nat) (rest : List Char) : Option (Char × List Char) :=
    (Text.takeHex? count rest).bind fun (n, after) => (Text.charOfCode? n).map (·, after)

/-- The content of a text of one line up to its closing quote; `fuel` bounds the number of
characters. -/
def content? (quote : Char) :
    (fuel : Nat) → (before : List Char) → List Char → Option (String × List Char)
  | 0, _, _ => none
  | fuel + 1, before, cs =>
    match cs with
    | [] => none
    | c :: rest =>
      if c = quote then some (String.ofList before.reverse, rest)
      else if c = '\\' ∧ quote = '"' then
        match escape? rest with
        | some (d, after) => content? quote fuel (d :: before) after
        | none => none
      else if isPlain c then content? quote fuel (c :: before) rest
      else none

/-- The text without the blanks and line breaks at its start, if there is a line break among the
first blanks. -/
def continued? (cs : List Char) : Option (List Char) :=
  (lineBreak? (skipBlanks cs)).map fun rest =>
    rest.dropWhile fun c => c = ' ' ∨ c = '\t' ∨ c = '\n' ∨ c = '\r'

/-- The content of a text of several lines up to three quotes in a row. -/
def longContent? (quote : Char) :
    (fuel : Nat) → (before : List Char) → List Char → Option (String × List Char)
  | 0, _, _ => none
  | fuel + 1, before, cs =>
    if [quote, quote, quote].isPrefixOf cs then some (String.ofList before.reverse, cs.drop 3)
    else match lineBreak? cs with
      | some rest => longContent? quote fuel ('\n' :: before) rest
      | none =>
        match cs with
        | [] => none
        | c :: rest =>
          if c = '\\' ∧ quote = '"' then
            match continued? rest, escape? rest with
            | some after, _ => longContent? quote fuel before after
            | none, some (d, after) => longContent? quote fuel (d :: before) after
            | none, none => none
          else if isPlain c then longContent? quote fuel (c :: before) rest
          else none

/-- A text of one line. -/
def text? : List Char → Option (String × List Char)
  | c :: rest => if c = '"' ∨ c = '\'' then content? c (rest.length + 1) [] rest else none
  | [] => none

/-- A text of several lines.  A line break right after the opening quotes does not count. -/
def longText? : List Char → Option (String × List Char)
  | c :: d :: e :: rest =>
    if (c = '"' ∨ c = '\'') ∧ d = c ∧ e = c then
      longContent? c (rest.length + 1) [] ((lineBreak? rest).getD rest)
    else none
  | _ => none

/-! ### Numbers -/

/-- The digits of a number in which single underscores may stand between digits. -/
def digits? (isDigit : Char → Bool) (cs : List Char) : Option (List Char) :=
  match cs with
  | [] => none
  | [c] => if isDigit c then some [c] else none
  | c :: '_' :: rest => if isDigit c then (digits? isDigit rest).map (c :: ·) else none
  | c :: rest => if isDigit c then (digits? isDigit rest).map (c :: ·) else none

/-- The digits of a whole number without needless zeros at its start. -/
def wholeDigits? (cs : List Char) : Option (List Char) :=
  (digits? Char.isDigit cs).filter fun ds => ds.head? != some '0' || ds.length == 1

/-- An unsigned integer in another base than ten. -/
def based? : List Char → Option Nat
  | '0' :: 'x' :: rest => read 16 (fun c => (Text.hexValue? c).isSome) rest
  | '0' :: 'o' :: rest => read 8 (fun c => '0' ≤ c && c ≤ '7') rest
  | '0' :: 'b' :: rest => read 2 (fun c => c == '0' || c == '1') rest
  | _ => none
where
  read (base : Nat) (isDigit : Char → Bool) (cs : List Char) : Option Nat :=
    (digits? isDigit cs).map fun ds => Text.digitsValue base (ds.filterMap Text.hexValue?)

/-- An unsigned number with a point or an exponent. -/
def fractional? (cs : List Char) : Option Decimal := do
  let whole ← wholeDigits? (cs.takeWhile fun c => c.isDigit || c == '_')
  let rest := cs.dropWhile fun c => c.isDigit || c == '_'
  let (fraction, rest) ← match rest with
    | '.' :: after => do
      let ds ← digits? Char.isDigit (after.takeWhile fun c => c.isDigit || c == '_')
      pure (ds, after.dropWhile fun c => c.isDigit || c == '_')
    | rest => pure ([], rest)
  let exponent ← match rest with
    | [] => if fraction.isEmpty then none else pure 0
    | e :: after =>
      if e = 'e' ∨ e = 'E' then do
        let (negative, body) := Decimal.takeSign after
        let n : Int := Decimal.ofDigits (← digits? Char.isDigit body)
        pure (if negative then -n else n)
      else none
  return ⟨Decimal.ofDigits (whole ++ fraction), exponent - fraction.length⟩

/-- A number.  One that is written with a finite value stays finite. -/
def number? (cs : List Char) : Option Value :=
  let (negative, body) := Decimal.takeSign cs
  let signed (x : Float) : Value := .float (if negative then -x else x)
  if body = "inf".toList then some (signed Binary64.infinity)
  else if body = "nan".toList then some (signed Binary64.nan)
  else match wholeDigits? body with
    | some ds =>
      let n : Int := Decimal.ofDigits ds
      some (.integer (if negative then -n else n))
    | none =>
      match based? cs with
      | some n => some (.integer n)
      | none => ((fractional? body).map Decimal.toFloat |>.filter Float.isFinite).map signed

/-! ### Values and keys -/

/-- A text, a truth value or a number. -/
def scalar? (cs : List Char) : Option (Value × List Char) :=
  match (longText? cs).or (text? cs) with
  | some (s, rest) => some (.text s, rest)
  | none =>
    let isPart (c : Char) : Bool := c.isAlphanum || c == '_' || c == '+' || c == '-' || c == '.'
    let word := cs.takeWhile isPart
    let value :=
      if word = "true".toList then some (.bool true)
      else if word = "false".toList then some (.bool false)
      else number? word
    value.map (·, cs.dropWhile isPart)

/-- One key, which may stand in quotes. -/
def key? (cs : List Char) : Option (String × List Char) :=
  match text? cs with
  | some part => some part
  | none =>
    let isPart (c : Char) : Bool := c.isAlphanum || c == '_' || c == '-'
    if (cs.takeWhile isPart).isEmpty then none
    else some (String.ofList (cs.takeWhile isPart), cs.dropWhile isPart)

/-- Keys with points between them; `fuel` bounds their number. -/
def keys? : (fuel : Nat) → List Char → Option (List String × List Char)
  | 0, _ => none
  | fuel + 1, cs => do
    let (key, rest) ← key? cs
    match skipBlanks rest with
    | '.' :: rest =>
      let (keys, rest) ← keys? fuel (skipBlanks rest)
      return (key :: keys, rest)
    | _ => return ([key], rest)

/-- The keys from a table to a value in it, with points between them. -/
def path? (cs : List Char) : Option (List String × List Char) := keys? cs.length cs

end Toml

end BranchDistance
