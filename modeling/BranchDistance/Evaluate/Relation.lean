import BranchDistance.Condition
import BranchDistance.Config
import BranchDistance.Outcome
import BranchDistance.Text.Alignment
import BranchDistance.Value.Coercion

/-!
# The distance of a relation between two values

Most relations are scored by the signed gap between their sides.  Equality of texts is scored by
alignment, and truth values have no order.
-/

namespace BranchDistance

/-- The distance of a relation whose sides are `gap` apart, left minus right. -/
def Relation.score (config : Config) (relation : Relation) (gap : Float) : Float :=
  match relation with
  | .eq => gap.abs
  | .ne => if gap == 0 then config.penalty else 0
  | .lt => if gap < 0 then 0 else gap + config.epsilon
  | .le => if 0 < gap then gap else 0
  | .gt => if 0 < gap then 0 else -gap + config.epsilon
  | .ge => if 0 < -gap then -gap else 0

/-- The outcome of a relation whose sides are `gap` apart; without a gap it is invalid. -/
def Relation.ofGap (config : Config) (relation : Relation) (gap : Float) : Outcome :=
  if gap.isNaN then .invalid else .ofFloat (relation.score config gap)

/-- The outcome of a relation between two texts. -/
def Relation.ofTexts (config : Config) (relation : Relation) (a b : String) : Outcome :=
  match relation with
  | .eq =>
    if a = b then .satisfied
    else match config.textMode with
      | .leftAlignment => .ofFloat (Text.alignmentDistance a b)
      | .constant => .ofFloat config.penalty
  | _ => relation.ofGap config (Text.orderGap a b)

/-- The outcome of a relation between two truth values. -/
def Relation.ofBools (config : Config) (relation : Relation) (a b : Bool) : Outcome :=
  match relation with
  | .eq => .ofBool config.penalty (a == b)
  | .ne => .ofBool config.penalty (a != b)
  | _ => .invalid

/-- The outcome of a relation between two values. -/
def Relation.outcome (config : Config) (relation : Relation) (l r : Value) : Outcome :=
  match Matched.ofValues? l r with
  | none => .invalid
  | some .null => .missing
  | some (.integers a b) => relation.ofGap config (Binary64.ofInt (a - b))
  | some (.numbers a b) => relation.ofGap config (a - b)
  | some (.texts a b) => relation.ofTexts config a b
  | some (.bools a b) => relation.ofBools config a b

end BranchDistance
