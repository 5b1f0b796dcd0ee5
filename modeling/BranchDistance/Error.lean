import BranchDistance.Config
import BranchDistance.Failure

/-!
# Errors for callers

What a caller sees of a failure, or of a configuration that is refused: a kind, an origin and a
message.
-/

namespace BranchDistance

/-- The kinds of error. -/
inductive ErrorKind where
  | config
  | malformed
  | unsupported
  | driver
  | timeout
  | internal
  deriving DecidableEq, Repr

/-- The name of a kind. -/
def ErrorKind.name : ErrorKind → String
  | config => "Config"
  | malformed => "Malformed"
  | unsupported => "Unsupported"
  | driver => "Driver"
  | timeout => "Timeout"
  | internal => "Internal"

/-- The kind of error that a class of failure is. -/
def FailureClass.errorKind : FailureClass → ErrorKind
  | malformed => .malformed
  | unsupported => .unsupported
  | driver => .driver
  | timeout => .timeout
  | internal => .internal

/-- Where an error comes from. -/
inductive ErrorOrigin where
  | config
  | stage (origin : FailureOrigin)
  deriving DecidableEq, Repr

/-- The name of an origin. -/
def ErrorOrigin.name : ErrorOrigin → String
  | config => "Config"
  | stage .translate => "Translate"
  | stage .evaluate => "Evaluate"
  | stage .driver => "Driver"
  | stage .facade => "Facade"

/-- An error as callers see it. -/
structure Error where
  kind : ErrorKind
  origin : ErrorOrigin
  message : String
  deriving DecidableEq

namespace Error

/-- A failure as callers see it. -/
def ofFailure (f : Failure) : Error := ⟨f.kind.errorKind, .stage f.origin, f.message⟩

/-- A refused configuration as callers see it. -/
def ofConfigFault (fault : ConfigFault) : Error := ⟨.config, .config, fault.message⟩

end Error

end BranchDistance
