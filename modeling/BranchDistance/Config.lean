import BranchDistance.Decimal.Layout

/-!
# Configuration

The constants of the distance formulas and the session settings, with their defaults and the check
that a loaded configuration has to pass.
-/

namespace BranchDistance

/-- How a failed equality of two texts is scored. -/
inductive TextMode where
  /-- By the alignment distance of the texts. -/
  | leftAlignment
  /-- By the penalty, whatever the texts are. -/
  | constant
  deriving DecidableEq, Repr

/-- The name of a mode in configuration text. -/
def TextMode.name : TextMode → String
  | leftAlignment => "left_alignment"
  | constant => "constant"

/-- The settings of an engine. -/
structure Config where
  /-- The distance of a predicate that fails without degrees. -/
  penalty : Float := 1
  /-- What a strict relation at its boundary still lacks. -/
  epsilon : Float := 1
  textMode : TextMode := .leftAlignment
  /-- The milliseconds that one calculation may take; zero sets no limit. -/
  timeoutMillis : Nat := 1000
  /-- Whether targets are kept for the session. -/
  keepTargets : Bool := true
  deriving DecidableEq

/-- A constant that is no positive finite number. -/
structure ConfigFault where
  field : String
  value : Float
  deriving DecidableEq

/-- The message of a fault. -/
def ConfigFault.message (fault : ConfigFault) : String :=
  fault.field ++ " must be finite and > 0, got " ++ Decimal.text fault.value

namespace Config

/-- Whether a constant is a positive finite number. -/
def isUsable (x : Float) : Bool := x.isFinite && !(x ≤ 0)

/-- The first of the two constants that is not usable, if there is one. -/
def fault? (config : Config) : Option ConfigFault :=
  if !isUsable config.penalty then some ⟨"not_equal_penalty", config.penalty⟩
  else if !isUsable config.epsilon then some ⟨"boundary_epsilon", config.epsilon⟩
  else none

/-- A configuration whose two constants are usable. -/
def IsValid (config : Config) : Prop :=
  isUsable config.penalty = true ∧ isUsable config.epsilon = true

/-- The limit on the time of one calculation, if there is one. -/
def timeout? (config : Config) : Option Nat :=
  if config.timeoutMillis = 0 then none else some config.timeoutMillis

theorem fault?_eq_none_iff {config : Config} : config.fault? = none ↔ config.IsValid := by
  unfold fault? IsValid
  cases isUsable config.penalty <;> cases isUsable config.epsilon <;> simp

end Config

end BranchDistance
