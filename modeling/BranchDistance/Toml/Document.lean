import BranchDistance.Toml.Literal

/-!
# Documents of TOML

A document is a table: lines that give values to paths of keys, with headers between them that open
further tables.  Arrays of tables have no headers here, and dates are not read.
-/

namespace BranchDistance

namespace Toml

/-- The text after blanks, line ends and comments; `fuel` bounds the number of lines. -/
def skipLines : (fuel : Nat) → List Char → List Char
  | 0, cs => cs
  | fuel + 1, cs =>
    if cs.isEmpty then []
    else match lineEnd? cs with
      | some rest => skipLines fuel rest
      | none => skipBlanks cs

/-- The text after blanks, line ends and comments. -/
def skipGap (cs : List Char) : List Char := skipLines cs.length cs

mutual

/-- A value: an array in brackets, a table in braces, or a scalar. -/
def valueWithin? : (fuel : Nat) → List Char → Option (Value × List Char)
  | 0, _ => none
  | fuel + 1, cs =>
    match cs with
    | '[' :: rest => arrayWithin? fuel [] (skipGap rest)
    | '\x7b' :: rest => tableWithin? fuel [] (skipGap rest)
    | _ => scalar? cs

/-- The elements of an array up to its closing bracket, after those that have been read.  A comma
may stand after the last one. -/
def arrayWithin? : (fuel : Nat) → List Value → List Char → Option (Value × List Char)
  | 0, _, _ => none
  | _ + 1, before, ']' :: rest => some (.array before.reverse, rest)
  | fuel + 1, before, cs => do
    let (v, rest) ← valueWithin? fuel cs
    match skipGap rest with
    | ']' :: rest => return (.array (v :: before).reverse, rest)
    | ',' :: rest => arrayWithin? fuel (v :: before) (skipGap rest)
    | _ => none

/-- The entries of a table up to its closing brace, after those that have been read.  A comma may
stand after the last one. -/
def tableWithin? : (fuel : Nat) → Table → List Char → Option (Value × List Char)
  | 0, _, _ => none
  | _ + 1, before, '\x7d' :: rest => some (.table .closed before, rest)
  | fuel + 1, before, cs => do
    let (path, rest) ← path? cs
    match skipGap rest with
    | '=' :: rest =>
      let (v, rest) ← valueWithin? fuel (skipGap rest)
      let t ← before.insert? path v
      match skipGap rest with
      | '\x7d' :: rest => return (.table .closed t, rest)
      | ',' :: rest => tableWithin? fuel t (skipGap rest)
      | _ => none
    | _ => none

end

/-- A value.  Every step of reading takes a character, and every value takes two steps. -/
def value? (cs : List Char) : Option (Value × List Char) := valueWithin? (2 * cs.length + 2) cs

/-- The path of keys in a header, after its opening bracket. -/
def header? (cs : List Char) : Option (List String × List Char) := do
  let (path, rest) ← path? (skipBlanks cs)
  match skipBlanks rest with
  | ']' :: rest => return (path, ← lineEnd? rest)
  | _ => none

/-- A path of keys and its value, on a line of their own. -/
def entry? (cs : List Char) : Option (List String × Value × List Char) := do
  let (path, rest) ← path? cs
  match skipBlanks rest with
  | '=' :: rest =>
    let (v, rest) ← value? (skipBlanks rest)
    return (path, v, ← lineEnd? rest)
  | _ => none

/-- The document with the lines of a text added under the given header; `fuel` bounds their number.
-/
def document? : (fuel : Nat) → (header : List String) → Table → List Char → Option Table
  | 0, _, _, _ => none
  | fuel + 1, header, t, cs =>
    if cs.isEmpty then some t
    else match lineEnd? cs, skipBlanks cs with
      | some rest, _ => document? fuel header t rest
      | none, '[' :: rest => do
        let (path, rest) ← header? rest
        document? fuel path (← t.open? path) rest
      | none, cs => do
        let (path, v, rest) ← entry? cs
        document? fuel header (← t.within? header (·.insert? path v)) rest

/-- The text without a byte order mark at its start. -/
def withoutMark : List Char → List Char
  | '\uFEFF' :: rest => rest
  | cs => cs

/-- The document that a text is. -/
def read? (text : String) : Option Table :=
  let cs := withoutMark text.toList
  document? (cs.length + 1) [] [] cs

end Toml

end BranchDistance
