import BranchDistance.Count
import BranchDistance.Decimal.Reading
import BranchDistance.Text.Digits

/-!
# JSON text

The parts of JSON text from which rows are read: names and texts, numbers, and values that are
passed over.  Every reader takes its part from the front of a text, after spaces, and gives the
rest.
-/

namespace BranchDistance.Json

/-- The text without the spaces at its start. -/
def skipSpaces (cs : List Char) : List Char :=
  cs.dropWhile fun c => c = ' ' ∨ c = '\n' ∨ c = '\t' ∨ c = '\r'

/-- The text after a sign. -/
def sign? (sign : Char) (cs : List Char) : Option (List Char) :=
  match skipSpaces cs with
  | c :: rest => if c = sign then some rest else none
  | [] => none

/-- The text after a word. -/
def word? (word : String) (cs : List Char) : Option (List Char) :=
  let ws := word.toList
  let cs := skipSpaces cs
  if ws.isPrefixOf cs then some (cs.drop ws.length) else none

/-! ### Texts -/

/-- The character of an escape by number: one of four digits, or two that form a surrogate pair. -/
def numberedEscape? (cs : List Char) : Option (Char × List Char) := do
  let (n, rest) ← Text.takeHex? 4 cs
  if 0xD800 ≤ n ∧ n < 0xDC00 then
    match rest with
    | '\\' :: 'u' :: after =>
      let (m, after) ← Text.takeHex? 4 after
      if 0xDC00 ≤ m ∧ m < 0xE000 then
        (Text.charOfCode? (0x10000 + (n - 0xD800) * 0x400 + (m - 0xDC00))).map (·, after)
      else none
    | _ => none
  else (Text.charOfCode? n).map (·, rest)

/-- The character of an escape, after its backslash.  Where a text is only passed over, every number
is allowed. -/
def escape? (passing : Bool) : List Char → Option (Char × List Char)
  | '"' :: rest => some ('"', rest)
  | '\\' :: rest => some ('\\', rest)
  | '/' :: rest => some ('/', rest)
  | 'b' :: rest => some ('\x08', rest)
  | 'f' :: rest => some ('\x0c', rest)
  | 'n' :: rest => some ('\n', rest)
  | 'r' :: rest => some ('\r', rest)
  | 't' :: rest => some ('\t', rest)
  | 'u' :: rest =>
    if passing then (Text.takeHex? 4 rest).map fun (_, after) => (' ', after)
    else numberedEscape? rest
  | _ => none

/-- The content of a text up to its closing quote; `fuel` bounds the number of characters. -/
def content? (passing : Bool) :
    (fuel : Nat) → (before : List Char) → List Char → Option (String × List Char)
  | 0, _, _ => none
  | fuel + 1, before, cs =>
    match cs with
    | [] => none
    | '"' :: rest => some (String.ofList before.reverse, rest)
    | '\\' :: rest =>
      match escape? passing rest with
      | some (c, after) => content? passing fuel (c :: before) after
      | none => none
    | c :: rest => if c.toNat < 32 then none else content? passing fuel (c :: before) rest

/-- A text between quotes. -/
def text? (passing : Bool) (cs : List Char) : Option (String × List Char) :=
  (sign? '"' cs).bind fun rest => content? passing (rest.length + 1) [] rest

/-! ### Numbers -/

/-- A number as it is written. -/
structure Numeral where
  negative : Bool
  whole : List Char
  /-- The digits after the point, if there is one. -/
  fraction : Option (List Char)
  exponent : Option Int

/-- An exponent, if one follows. -/
def exponent? (cs : List Char) : Option (Option Int × List Char) :=
  match cs with
  | c :: rest =>
    if c = 'e' ∨ c = 'E' then
      let (negative, body) := Decimal.takeSign rest
      let (digits, after) := Decimal.takeDigits body
      if digits.isEmpty then none
      else
        let n : Int := Decimal.ofDigits digits
        some (some (if negative then -n else n), after)
    else some (none, cs)
  | [] => some (none, [])

/-- A number, whose whole part does not start with a zero unless it is zero. -/
def numeral? (cs : List Char) : Option (Numeral × List Char) := do
  let (negative, body) := match skipSpaces cs with
    | '-' :: rest => (true, rest)
    | rest => (false, rest)
  let (whole, rest) := Decimal.takeDigits body
  if whole.isEmpty ∨ (whole.head? = some '0' ∧ whole.length ≠ 1) then none
  else
    let (fraction, rest) := match rest with
      | '.' :: after =>
        let (digits, after) := Decimal.takeDigits after
        (some digits, after)
      | rest => (none, rest)
    if fraction = some [] then none
    else
      let (exponent, rest) ← exponent? rest
      return (⟨negative, whole, fraction, exponent⟩, rest)

namespace Numeral

/-- The integer that is written without point and exponent, if its size is a count. -/
def integer? (n : Numeral) : Option Int :=
  if n.fraction.isSome ∨ n.exponent.isSome then none
  else
    let m := Decimal.ofDigits n.whole
    if countMax < m then none else some (if n.negative then -(m : Int) else m)

/-- The decimal number that is written, without its sign. -/
def magnitude (n : Numeral) : Decimal :=
  let fraction := n.fraction.getD []
  ⟨Decimal.ofDigits (n.whole ++ fraction), n.exponent.getD 0 - fraction.length⟩

/-- The nearest binary64 number, unless it is too large. -/
def float? (n : Numeral) : Option Float :=
  let x := n.magnitude.toFloat
  if x.isInf then none else some (if n.negative then -x else x)

end Numeral

/-! ### Structure -/

/-- Reads what stands between an opening and a closing sign, with commas between its parts.  Each
part is read with what the parts before it gave; `fuel` bounds their number. -/
def parts? {σ : Type} (closing : Char) (part : σ → List Char → Option (σ × List Char)) :
    (fuel : Nat) → σ → List Char → Option (σ × List Char)
  | 0, _, _ => none
  | fuel + 1, s, cs => do
    let (s, rest) ← part s cs
    match sign? ',' rest with
    | some after => parts? closing part fuel s after
    | none => (sign? closing rest).map (s, ·)

/-- Reads a sequence of parts, perhaps empty, between two signs. -/
def enclosed? {σ : Type} (opening closing : Char)
    (part : σ → List Char → Option (σ × List Char)) (s : σ) (cs : List Char) :
    Option (σ × List Char) := do
  let rest ← sign? opening cs
  match sign? closing rest with
  | some after => return (s, after)
  | none => parts? closing part (rest.length + 1) s rest

/-- Reads an object, each member with what the members before it gave. -/
def object? {σ : Type} (member : σ → String → List Char → Option (σ × List Char)) (s : σ)
    (cs : List Char) : Option (σ × List Char) :=
  enclosed? '\x7b' '\x7d' (fun s cs => do
    let (name, rest) ← text? false cs
    member s name (← sign? ':' rest)) s cs

/-- Reads an array, each element with what the elements before it gave. -/
def array? {σ : Type} (element : σ → List Char → Option (σ × List Char)) (s : σ)
    (cs : List Char) : Option (σ × List Char) :=
  enclosed? '[' ']' element s cs

/-- Passes over a value; `depth` bounds its nesting. -/
def pass? : (depth : Nat) → List Char → Option (Unit × List Char)
  | 0, _ => none
  | depth + 1, cs =>
    match skipSpaces cs with
    | '\x7b' :: _ =>
      enclosed? '\x7b' '\x7d' (fun _ cs => do
        let (_, rest) ← text? true cs
        pass? depth (← sign? ':' rest)) () cs
    | '[' :: _ => enclosed? '[' ']' (fun _ cs => pass? depth cs) () cs
    | '"' :: _ => (text? true cs).map fun (_, rest) => ((), rest)
    | _ =>
      match (word? "null" cs).or ((word? "true" cs).or (word? "false" cs)) with
      | some rest => some ((), rest)
      | none => (numeral? cs).map fun (_, rest) => ((), rest)

end BranchDistance.Json
