import BranchDistance.Config
import BranchDistance.Count
import BranchDistance.Toml.Document

/-!
# Configuration text

A configuration is written in TOML.  Settings that are left out take their defaults.  A text is
refused if it is no TOML, sets something else, or gives a value of another kind; the constants are
checked afterwards.
-/

namespace BranchDistance

namespace Config

open Toml (Value)

/-- The number that a value is.  Integers are allowed as far as they fit into 64 binary digits. -/
def floatOf? : Value → Option Float
  | .float x => some x
  | .integer n =>
    if Int64.minValue.toInt ≤ n ∧ n ≤ countMax then some (Binary64.ofInt n) else none
  | _ => none

/-- The number of milliseconds that a value is. -/
def millisOf? : Value → Option Nat
  | .integer n => if 0 ≤ n ∧ n ≤ countMax then some n.toNat else none
  | _ => none

/-- The mode with a name. -/
def textModeNamed? (name : String) : Option TextMode :=
  [TextMode.leftAlignment, .constant].find? (·.name == name)

/-- The mode that a value names: as a text, or as the only key of a table, where it holds nothing.
-/
def textModeOf? : Value → Option TextMode
  | .text s => textModeNamed? s
  | .table _ [(name, .array [])] => textModeNamed? name
  | .table _ [(name, .table _ [])] => textModeNamed? name
  | _ => none

/-- The configuration with one more setting. -/
def set? (config : Config) (key : String) (value : Value) : Option Config :=
  match key with
  | "not_equal_penalty" => (floatOf? value).map fun x => { config with penalty := x }
  | "boundary_epsilon" => (floatOf? value).map fun x => { config with epsilon := x }
  | "string_distance" => (textModeOf? value).map fun m => { config with textMode := m }
  | "timeout_ms" => (millisOf? value).map fun n => { config with timeoutMillis := n }
  | "cache_conditions" =>
    match value with
    | .bool b => some { config with keepTargets := b }
    | _ => none
  | _ => none

/-- Why a configuration text is refused. -/
inductive ReadError where
  | malformed
  | fault (f : ConfigFault)
  deriving DecidableEq

/-- The configuration that a text is, before its constants are checked. -/
def read? (text : String) : Option Config := do
  (← Toml.read? text).foldlM (fun config (key, value) => config.set? key value) {}

/-- The configuration that a text is. -/
def ofToml? (text : String) : Except ReadError Config :=
  match read? text with
  | none => .error .malformed
  | some config =>
    match config.fault? with
    | some f => .error (.fault f)
    | none => .ok config

end Config

end BranchDistance
