import BranchDistance.Sql.Token
import BranchDistance.Text.Alphabetic
import BranchDistance.Text.Blank
import BranchDistance.Text.Digits

/-!
# Scanning SQL text

The text is cut into tokens from left to right; each token is as long as its kind allows.  Blanks
and comments separate tokens and are dropped.  The text fails to scan only if a quotation or a
comment does not end, or an escape in it names no character.
-/

namespace BranchDistance.Sql

open Text (charOfCode? digitsValue hexValue? isAlphabetic isBlank isNumeric takeHex?)

/-- What scanning one token gives: a token, or nothing but progress, and the rest of the text. -/
abbrev Scanned := Option (Option Token × List Char)

/-- Whether a character can start a word. -/
def isWordStart (c : Char) : Bool := isAlphabetic c || c == '_'

/-- Whether a character can follow in a word. -/
def isWordPart (c : Char) : Bool :=
  isAlphabetic c || c.isDigit || c == '_' || c == '$' || c == '#' || c == '@'

/-- The word that goes on from the characters `start`. -/
def scanWord (start rest : List Char) : Scanned :=
  some (some (.word (.unquoted (start ++ rest.takeWhile isWordPart))), rest.dropWhile isWordPart)

/-- The character that a backslash escape stands for where such escapes are read. -/
def unescape : Char → Char
  | '0' => '\x00'
  | 'a' => '\x07'
  | 'b' => '\x08'
  | 'f' => '\x0c'
  | 'n' => '\n'
  | 'r' => '\r'
  | 't' => '\t'
  | 'Z' => '\x1a'
  | c => c

/-- The content up to the closing quote, which is written twice inside; `content` holds what has
been read, latest first. -/
def quotedContent (quote : Char) (escapes : Bool) :
    (content : List Char) → List Char → Option (List Char × List Char)
  | _, [] => none
  | content, [c] =>
    if c = quote then some (content.reverse, []) else none
  | content, c :: d :: rest =>
    if c = quote then
      if d = quote then quotedContent quote escapes (quote :: content) rest
      else some (content.reverse, d :: rest)
    else if c = '\\' ∧ escapes then quotedContent quote escapes (unescape d :: content) rest
    else quotedContent quote escapes (c :: content) (d :: rest)

/-- The content up to three quotes in a row. -/
def tripleContent (quote : Char) :
    (content : List Char) → List Char → Option (List Char × List Char)
  | _, [] => none
  | content, c :: rest =>
    match rest with
    | d :: e :: after =>
      if c = quote ∧ d = quote ∧ e = quote then some (content.reverse, after)
      else tripleContent quote (c :: content) rest
    | _ => none

/-- A text literal with the given introduction, after its opening quote. -/
def scanText (style : TextStyle) (escapes : Bool) (rest : List Char) : Scanned :=
  (quotedContent '\'' escapes [] rest).map fun (content, after) =>
    (some (.text style (String.ofList content)), after)

/-- A literal that may be set in one or three quotes of a kind, after its first quote. -/
def scanFenced (style : String → TextStyle) (quote : Char) (rest : List Char) : Scanned :=
  match rest with
  | c :: d :: after =>
    if c = quote ∧ d = quote then
      (tripleContent quote [] after).map fun (content, after) =>
        (some (.text (style (String.ofList [quote, quote, quote])) (String.ofList content)), after)
    else single
  | _ => single
where
  single :=
    (quotedContent quote false [] rest).map fun (content, after) =>
      (some (.text (style quote.toString) (String.ofList content)), after)

/-- The character of a byte escape, of which only the low eight bits count; it must be ASCII. -/
def charOfByte? (n : Nat) : Option Char :=
  if n % 256 ≤ 127 then some (Char.ofNat (n % 256)) else none

/-- The character with a number of exactly `count` hexadecimal digits, and the text after it. -/
def numberedChar? (count : Nat) (rest : List Char) : Option (Char × List Char) :=
  (takeHex? count rest).bind fun (n, after) => (charOfCode? n).map (·, after)

/-- The character with a number in the next `count` characters, of which the first may be a plus
sign, and the text after it. -/
def signedChar? (count : Nat) : List Char → Option (Char × List Char)
  | '+' :: rest => numberedChar? (count - 1) rest
  | rest => numberedChar? count rest

/-- The character of a backslash escape in an escaped literal, and the text after it.  A null
character is not allowed. -/
def escapedChar? : List Char → Option (Char × List Char)
  | [] => none
  | c :: rest =>
    let result : Option (Char × List Char) :=
      match c with
      | 'b' => some ('\x08', rest)
      | 'f' => some ('\x0c', rest)
      | 'n' => some ('\n', rest)
      | 'r' => some ('\r', rest)
      | 't' => some ('\t', rest)
      | 'u' => signedChar? 4 rest
      | 'U' => signedChar? 8 rest
      | 'x' =>
        let ds := (rest.take 2).takeWhile fun d => (hexValue? d).isSome
        if ds.isEmpty then some ('x', rest)
        else (charOfByte? (digitsValue 16 (ds.filterMap hexValue?))).map (·, rest.drop ds.length)
      | c =>
        if '0' ≤ c ∧ c ≤ '7' then
          let ds := c :: (rest.take 2).takeWhile fun d => '0' ≤ d ∧ d ≤ '7'
          (charOfByte? (digitsValue 8 (ds.filterMap hexValue?))).map (·, rest.drop (ds.length - 1))
        else some (c, rest)
    result.filter fun r => r.1 != '\x00'

/-- The content of an escaped literal, after its opening quote.  `fuel` bounds the number of
characters. -/
def escapedContent :
    (fuel : Nat) → (content : List Char) → List Char → Option (List Char × List Char)
  | 0, _, _ => none
  | fuel + 1, content, cs =>
    match cs with
    | [] => none
    | '\'' :: '\'' :: rest => escapedContent fuel ('\'' :: content) rest
    | '\'' :: rest => some (content.reverse, rest)
    | '\\' :: rest =>
      match escapedChar? rest with
      | some (c, after) => escapedContent fuel (c :: content) after
      | none => none
    | c :: rest => escapedContent fuel (c :: content) rest

/-- The content of a literal with numbered characters: a backslash with four hexadecimal digits, or
with a plus sign and six, and a doubled backslash for itself. -/
def numberedContent :
    (fuel : Nat) → (content : List Char) → List Char → Option (List Char × List Char)
  | 0, _, _ => none
  | fuel + 1, content, cs =>
    match cs with
    | [] => none
    | '\'' :: '\'' :: rest => numberedContent fuel ('\'' :: content) rest
    | '\'' :: rest => some (content.reverse, rest)
    | '\\' :: '\\' :: rest => numberedContent fuel ('\\' :: content) rest
    | '\\' :: '+' :: rest =>
      match numberedChar? 6 rest with
      | some (c, after) => numberedContent fuel (c :: content) after
      | none => none
    | '\\' :: rest =>
      match numberedChar? 4 rest with
      | some (c, after) => numberedContent fuel (c :: content) after
      | none => none
    | c :: rest => numberedContent fuel (c :: content) rest

/-- The rest of the text after a comment to the end of the line. -/
def afterLine (cs : List Char) : List Char := (cs.dropWhile (· != '\n')).drop 1

/-- The rest of the text after a bracketed comment, which may hold others; `last` is the character
before and `open` the number of comments that still have to end. -/
def afterComment : (last : Char) → (nesting : Nat) → List Char → Option (List Char)
  | _, _, [] => none
  | last, nesting, c :: rest =>
    if last = '/' ∧ c = '*' then afterComment c (nesting + 1) rest
    else if last = '*' ∧ c = '/' then
      if nesting ≤ 1 then some rest else afterComment c (nesting - 1) rest
    else afterComment c nesting rest

/-- The exponent at the start of a text, if digits follow its mark and sign. -/
def takeExponent (cs : List Char) : List Char × List Char :=
  match cs with
  | mark :: rest =>
    if mark = 'e' ∨ mark = 'E' then
      let (sign, body) := match rest with
        | '+' :: body => (['+'], body)
        | '-' :: body => (['-'], body)
        | body => ([], body)
      let digits := body.takeWhile Char.isDigit
      if digits.isEmpty then ([], cs)
      else (mark :: sign ++ digits, body.drop digits.length)
    else ([], cs)
  | [] => ([], [])

/-- A number, or a point alone. -/
def scanNumber (cs : List Char) : Scanned :=
  let whole := cs.takeWhile Char.isDigit
  let afterWhole := cs.drop whole.length
  match whole, afterWhole with
  | ['0'], 'x' :: rest =>
    let digits := rest.takeWhile fun c => (hexValue? c).isSome
    some (some (.text .hexadecimal (String.ofList digits)), rest.drop digits.length)
  | _, _ =>
    let (point, afterPoint) := match afterWhole with
      | '.' :: rest => (['.'], rest)
      | rest => ([], rest)
    let fraction := afterPoint.takeWhile Char.isDigit
    let mantissa := whole ++ point ++ fraction
    let afterFraction := afterPoint.drop fraction.length
    if mantissa = ['.'] then some (some (.symbol "."), afterFraction)
    else
      let (exponent, tail) := takeExponent afterFraction
      let digits := String.ofList (mantissa ++ exponent)
      match tail with
      | 'L' :: rest => some (some (.number digits true), rest)
      | rest => some (some (.number digits false), rest)

/-- The content up to the closing tag, which stands between two dollar signs. -/
def taggedContent (tag : List Char) :
    (fuel : Nat) → (content : List Char) → List Char → Option (List Char × List Char)
  | 0, _, _ => none
  | fuel + 1, content, cs =>
    let plain := cs.takeWhile (· != '$')
    let content := plain.reverse ++ content
    match cs.drop plain.length with
    | [] => none
    | dollar :: rest =>
      -- the characters of the tag are consumed up to and including the first that differs
      let same := (rest.zip tag).takeWhile fun (a, b) => a = b
      if same.length = tag.length then
        match rest.drop tag.length with
        | '$' :: after => some (content.reverse, after)
        | after => taggedContent tag fuel (tag.reverse ++ dollar :: content) after
      else if rest.length ≤ same.length then none
      else
        let read := rest.take (same.length + 1)
        taggedContent tag fuel (read.reverse ++ dollar :: content) (rest.drop (same.length + 1))

/-- The content up to two dollar signs in a row; `last` is the character before. -/
def untaggedContent : (last : Option Char) → (content : List Char) → List Char →
    Option (List Char × List Char)
  | _, _, [] => none
  | last, content, c :: rest =>
    if last = some '$' then
      if c = '$' then some (content.reverse, rest)
      else untaggedContent (some c) (c :: '$' :: content) rest
    else if c = '$' then untaggedContent (some c) content rest
    else untaggedContent (some c) (c :: content) rest

/-- What follows a dollar sign: a literal between tags, or the name of a placeholder. -/
def scanDollar (cs : List Char) : Scanned :=
  match cs with
  | '$' :: rest =>
    (untaggedContent none [] rest).map fun (content, after) =>
      (some (.text (.dollar "") (String.ofList content)), after)
  | _ =>
    let name := cs.takeWhile fun c => isAlphabetic c || isNumeric c || c == '_'
    match cs.drop name.length with
    | '$' :: rest =>
      (taggedContent name (rest.length + 1) [] rest).map fun (content, after) =>
        (some (.text (.dollar (String.ofList name)) (String.ofList content)), after)
    | rest => some (some (.placeholder (String.ofList ('$' :: name))), rest)

/-- The signs.  One that starts with another stands before it. -/
def signs : List (List Char × String) := [
  "(", ")", ",", "=>", "==", "=", "+", "*", "%", ";", "->>", "->", "-", "//", "/", "<=>", "<=",
  "<>", "<<", "<@", "<", ">=", ">>", ">", "||/", "||", "|/", "|", "!~~*", "!~~", "!~*", "!~", "!!",
  "!", "::", ":=", ":", "&&", "&", "^@", "^", "~~*", "~~", "~*", "~", "#>>", "#>", "#-", "#", "@>",
  "@?", "@@", "@", "[", "]", "\x7b", "\x7d", "\\"].map fun s => (s.toList, s)

/-- The first sign of the list that starts the text. -/
def scanSign (cs : List Char) : Scanned :=
  match cs with
  | '!' :: '=' :: rest => some (some (.symbol "<>"), rest)
  | _ =>
    match signs.find? fun sign => sign.1.isPrefixOf cs with
    | some sign => some (some (.symbol sign.2), cs.drop sign.1.length)
    | none =>
      match cs with
      | [] => none
      | c :: rest => some (some (.stray c), rest)

/-- What starts with a letter that may introduce a literal. -/
def scanIntroduced (c : Char) (rest : List Char) : Scanned :=
  match c.toLower, rest with
  | 'n', '\'' :: after => scanText .national true after
  | 'x', '\'' :: after => scanText .hexadecimal true after
  | 'b', '\'' :: after => scanText (.bytes "'") false after
  | 'b', '"' :: after => scanFencedOnce .bytes '"' after
  | 'r', '\'' :: after => scanFenced .raw '\'' after
  | 'r', '"' :: after => scanFenced .raw '"' after
  | 'e', '\'' :: after =>
    (escapedContent (after.length + 1) [] after).map fun (content, after) =>
      (some (.text .escaped (String.ofList content)), after)
  | 'u', '&' :: '\'' :: after =>
    (numberedContent (after.length + 1) [] after).map fun (content, after) =>
      (some (.text .unicode (String.ofList content)), after)
  | _, _ => scanWord [c] rest
where
  scanFencedOnce (style : String → TextStyle) (quote : Char) (rest : List Char) : Scanned :=
    (quotedContent quote false [] rest).map fun (content, after) =>
      (some (.text (style quote.toString) (String.ofList content)), after)

/-- What starts with a sign that may also start a word: `#` and `@`.  Such a sign takes the next
character into a word, whatever it is, unless the two form an operator. -/
def scanMark (c : Char) (rest : List Char) : Scanned :=
  match c, rest with
  | '#', d :: after =>
    if d = '-' ∨ d = '>' ∨ d = ' ' then scanSign (c :: rest) else scanWord [c, d] after
  | '@', '@' :: d :: after =>
    if d = ' ' then scanSign (c :: rest) else scanWord [c, '@', d] after
  | '@', d :: after =>
    if d = '>' ∨ d = '?' ∨ d = ' ' ∨ d = '@' then scanSign (c :: rest) else scanWord [c, d] after
  | _, _ => scanSign (c :: rest)

/-- Scans the first token of a text that starts with `c`. -/
def scanOne (c : Char) (rest : List Char) : Scanned :=
  if isWordStart c then scanIntroduced c rest
  else if isBlank c then some (none, rest)
  else if c.isDigit ∨ c = '.' then scanNumber (c :: rest)
  else match c, rest with
    | '\'', _ => scanText .plain false rest
    | '"', _ => scanName '"'
    | '`', _ => scanName '`'
    | '-', '-' :: after => some (none, afterLine after)
    | '/', '*' :: after => (afterComment ' ' 1 after).map (none, ·)
    | '#', _ => scanMark c rest
    | '@', _ => scanMark c rest
    | '?', _ =>
      let digits := rest.takeWhile isNumeric
      some (some (.placeholder (String.ofList ('?' :: digits))), rest.drop digits.length)
    | '$', _ => scanDollar rest
    | _, _ => scanSign (c :: rest)
where
  scanName (quote : Char) : Scanned :=
    (quotedContent quote false [] rest).map fun (content, after) =>
      (some (.word (.quoted quote content)), after)

/-- Scans at most `fuel` tokens and blanks; `tokens` holds those before, latest first. -/
def scanFrom : (fuel : Nat) → (tokens : List Token) → List Char → Option (List Token)
  | _, tokens, [] => some tokens.reverse
  | 0, _, _ :: _ => none
  | fuel + 1, tokens, c :: rest =>
    match scanOne c rest with
    | some (some token, after) => scanFrom fuel (token :: tokens) after
    | some (none, after) => scanFrom fuel tokens after
    | none => none

/-- The tokens of a text, unless a quotation or comment in it does not end.  Each step takes at
least one character, so the length of the text bounds the number of steps. -/
def scan (cs : List Char) : Option (List Token) := scanFrom cs.length [] cs

end BranchDistance.Sql
