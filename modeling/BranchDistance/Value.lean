import BranchDistance.Decimal.Layout
import BranchDistance.Decimal.Reading
import BranchDistance.Text.Blank
import BranchDistance.Text.Fold

/-!
# Values

The values of a database: null, truth values, integers of 64 binary digits, binary64 numbers and
text.  A value can be viewed as a number, as a truth value or as text.
-/

namespace BranchDistance

/-- A literal of a condition or the content of a cell. -/
inductive Value where
  | null
  | bool (b : Bool)
  | int (n : Int64)
  | float (x : Float)
  | text (s : String)
  deriving DecidableEq, Inhabited

/-- The kinds of value that decide how two values are compared. -/
inductive Family where
  | numeric
  | textual
  | bool
  | null
  deriving DecidableEq, Repr

namespace Value

/-- The kind of a value. -/
def family : Value → Family
  | null => .null
  | bool _ => .bool
  | int _ => .numeric
  | float _ => .numeric
  | text _ => .textual

def isNull (v : Value) : Bool := v.family == .null

def isNumeric (v : Value) : Bool := v.family == .numeric

def isText (v : Value) : Bool := v.family == .textual

/-- The text of a text. -/
def text? : Value → Option String
  | text s => some s
  | _ => none

/-- The number that a numeric value is. -/
def number? : Value → Option Float
  | int n => some (Binary64.ofInt n.toInt)
  | float x => some x
  | _ => none

/-- The number that a value is or, between blanks, writes.  Text never stands for an infinity. -/
def asNumber? : Value → Option Float
  | text s => (Decimal.readFloat? (Text.trim s.toList)).filter Float.isFinite
  | v => v.number?

/-- The truth value that a value is or stands for: `1` and `0`, and the words for true and false in
full or by their first letter. -/
def asBool? : Value → Option Bool
  | bool b => some b
  | int n => if n = 0 then some false else if n = 1 then some true else none
  | text s =>
    let word := Text.casefold (Text.trimmed s)
    if word = "true" ∨ word = "t" then some true
    else if word = "false" ∨ word = "f" then some false
    else none
  | _ => none

/-- The written form of a value. -/
def display : Value → String
  | null => "NULL"
  | bool b => if b then "true" else "false"
  | int n => String.ofList (Decimal.ofInt n.toInt)
  | float x => Decimal.text x
  | text s => s

/-- The text in which a pattern is sought; null has none. -/
def searchText? : Value → Option String
  | null => none
  | v => some v.display

instance : ToString Value := ⟨display⟩

end Value

end BranchDistance
