import DeviceRules.Defect
import DeviceRules.Identifier
import DeviceRules.Time.Instant

/-! Conditions: boolean expressions over telemetry, device statuses and the clock, and the trigger of a rule,
which adds a rate limit to one. -/
namespace DeviceRules

inductive Comparison
  | gt | lt | eq | gte | lte
  deriving DecidableEq, Repr

namespace Comparison

def name : Comparison → String
  | gt => "gt" | lt => "lt" | eq => "eq" | gte => "gte" | lte => "lte"

def table : List (String × Comparison) := [gt, lt, eq, gte, lte].map fun c => (c.name, c)

/-- Whether the comparison holds; equality is exact, and no comparison but none holds of NaN. -/
def holds (c : Comparison) (value threshold : Float) : Bool :=
  match c with
  | gt => value > threshold
  | lt => value < threshold
  | eq => value == threshold
  | gte => value ≥ threshold
  | lte => value ≤ threshold

end Comparison

inductive Direction
  | increase | decrease | either
  deriving DecidableEq, Repr

namespace Direction

def name : Direction → String
  | increase => "increase" | decrease => "decrease" | either => "any"

/-- The name as messages show it. -/
def title : Direction → String
  | increase => "Increase" | decrease => "Decrease" | either => "Any"

def table : List (String × Direction) := [increase, decrease, either].map fun d => (d.name, d)

/-- Whether a change by `delta`, the newer value less the older, is a change by `least` in this direction. -/
def holds (d : Direction) (delta least : Float) : Bool :=
  match d with
  | increase => delta ≥ least
  | decrease => delta ≤ -least
  | either => delta.abs ≥ least

end Direction

/-- The newest value of a window against a threshold. -/
structure ThresholdCondition where
  dataType : String
  comparison : Comparison
  threshold : Float
  windowMinutes : Float
  deriving BEq, Repr

/-- The newest value of a window against the one before it. -/
structure ChangeCondition where
  dataType : String
  direction : Direction
  least : Float
  windowMinutes : Float
  deriving BEq, Repr

inductive TimeCondition
  /-- The local time lies between two times of day, both included; a start after the end wraps around midnight. -/
  | timeOfDay (start stop : String)
  /-- The local day of the week is one of these, with Monday as 0. -/
  | dayOfWeek (days : List UInt8)
  /-- Some minutes have passed since the last trigger, or since the last firing when there is none. -/
  | interval (minutes : UInt32) (lastTrigger : Option Instant)
  deriving BEq

inductive Connective
  | and | or
  deriving DecidableEq, Repr

namespace Connective

def name : Connective → String
  | and => "AND" | or => "OR"

def title : Connective → String
  | and => "And" | or => "Or"

/-- The written names; each has two. -/
def table : List (String × Connective) := [("AND", and), ("and", and), ("OR", or), ("or", or)]

/-- The value of the connective when no operand has decided it. -/
def neutral : Connective → Bool
  | and => true | or => false

/-- Whether an operand alone decides the value, which is then that of the operand. -/
def decides (c : Connective) (operand : Bool) : Bool := operand != c.neutral

end Connective

/-- A boolean expression. A child of a composite names its own device. A node that could not be decoded is
kept as such, with the kind that it gave and the defect. -/
inductive Condition
  | threshold (c : ThresholdCondition)
  | change (c : ChangeCondition)
  | time (c : TimeCondition)
  | status (expected : String)
  | composite (connective : Connective) (children : List (Addressed Condition))
  | unsupported (kind : Option String) (defect : Defect)
  deriving BEq

namespace Condition

/-- The kind that a document names in `type`. -/
def kind : Condition → String
  | threshold _ => "value_threshold"
  | change _ => "value_change"
  | time _ => "time_based"
  | status _ => "device_status"
  | composite _ _ => "composite"
  | unsupported kind _ => kind.getD "unknown"

end Condition

/-- The root of a rule's condition, with the least number of seconds between two firings. -/
structure Trigger where
  minInterval : Option Float
  condition : Condition
  deriving BEq

namespace Trigger

/-- The rate limit of a rule whose trigger sets none, in seconds. -/
def defaultMinInterval : UInt64 := 30

/-- The rate limit, `absent` seconds when the trigger sets none. -/
def interval (t : Trigger) (absent : UInt64) : Duration :=
  match t.minInterval with
  | some seconds => Duration.ofSeconds seconds
  | none => Duration.ofWholeSeconds absent

end Trigger

end DeviceRules
