import BranchDistance.Text.Hidden

/-!
# Quoted text

The form in which log records show a text: between double quotes, with backslash escapes for the
quote, the backslash, the common control characters, and by hexadecimal number for everything else
that has no visible form of its own.
-/

namespace BranchDistance.Text

/-- The hexadecimal digits of a number, lower case, without leading zeros. -/
def hex (n : Nat) : List Char := Nat.toDigits 16 n

/-- The quoted form of one character. -/
def quoteChar (c : Char) : List Char :=
  match c with
  | '"' => ['\\', '"']
  | '\\' => ['\\', '\\']
  | '\n' => ['\\', 'n']
  | '\r' => ['\\', 'r']
  | '\t' => ['\\', 't']
  | '\x00' => ['\\', '0']
  | c => if isHidden c then '\\' :: 'u' :: '\x7b' :: hex c.toNat ++ ['\x7d'] else [c]

/-- The quoted form of a text. -/
def quoted (s : String) : String :=
  String.ofList ('"' :: s.toList.flatMap quoteChar ++ ['"'])

end BranchDistance.Text
