import DeviceRules.Condition.Basic
import DeviceRules.Field
import DeviceRules.Json.Reader

/-! Conditions from documents. Decoding never fails: a node that cannot be decoded becomes an unsupported node,
and neither its ancestors nor its siblings notice. -/
namespace DeviceRules

def ThresholdCondition.ofFields (fields : Fields) : Except Defect ThresholdCondition := do
  let dataType ← fields.read? "data_type" .text
  let comparison ← fields.read? "operator" (.choice Comparison.table)
  let threshold ← fields.read? "threshold" .double
  let window ← fields.readEither? "time_window_minutes" "window_minutes" "time_window_minutes" .double
  return {
    dataType := ← Fields.required "data_type" dataType
    comparison := ← Fields.required "operator" comparison
    threshold := ← Fields.required "threshold" threshold
    windowMinutes := window.getD 5 }

def ChangeCondition.ofFields (fields : Fields) : Except Defect ChangeCondition := do
  let direction ← fields.read? "change_type" (.choice Direction.table)
  let dataType ← fields.read? "data_type" .text
  let least ← fields.readOr "min_change" .double 0
  let window ← fields.readEither? "time_window_minutes" "window_minutes" "time_window_minutes" .double
  return {
    dataType := ← Fields.required "data_type" dataType
    direction := ← Fields.required "change_type" direction
    least
    windowMinutes := window.getD 10 }

inductive TimeKind
  | timeOfDay | dayOfWeek | interval
  deriving DecidableEq, Repr

def TimeKind.name : TimeKind → String
  | timeOfDay => "time_of_day" | dayOfWeek => "day_of_week" | interval => "interval"

def TimeKind.table : List (String × TimeKind) := [timeOfDay, dayOfWeek, interval].map fun k => (k.name, k)

/-- The fields of a predicate on the clock, once its kind is known. -/
def TimeCondition.ofKind (fields : Fields) : TimeKind → Except Defect TimeCondition
  | .timeOfDay => do
      let stop ← fields.read? "end_time" .text
      let start ← fields.read? "start_time" .text
      return .timeOfDay (← Fields.required "start_time" start) (← Fields.required "end_time" stop)
  | .dayOfWeek => return .dayOfWeek (← fields.readOr "days" (.list .byte) [])
  | .interval => do
      let minutes ← fields.readOr "interval_minutes" .word 60
      let lastTrigger ← fields.readOr "last_trigger" .instant none
      return .interval minutes lastTrigger

def TimeCondition.ofFields (fields : Fields) : Except Defect TimeCondition := do
  let kind ← fields.read? "time_type" (.tag TimeKind.table)
  TimeCondition.ofKind fields (← Fields.required "time_type" kind)

/-- The expected status, under either of its keys. -/
def statusOfFields (fields : Fields) : Except Defect String := do
  Fields.required "status" (← fields.readEither? "expected_status" "status" "status" .text)

/-- The kind that a node names, which has to be a text. -/
def kindOf (fields : Fields) : Except Defect String :=
  match fields.get? "type" with
  | some (.text kind) => .ok kind
  | some _ => .error .tagNotText
  | none => .error .tagMissing

/-- The device that a child names; anything but a text names none. -/
def deviceOf (json : Json) : Option DeviceId := (json.textAt? "device_id").map DeviceId.mk

namespace Condition

/-- The decoded node, or an unsupported one that keeps the kind. -/
def orUnsupported (kind : String) : Except Defect Condition → Condition
  | .ok condition => condition
  | .error defect => unsupported (some kind) defect

/-- A node whose children are decoded already. -/
def ofFields (fields : Fields) (children : Except Defect (Option (List (Addressed Condition)))) : Condition :=
  match kindOf fields with
  | .error defect => unsupported none defect
  | .ok "value_threshold" => orUnsupported "value_threshold" (threshold <$> ThresholdCondition.ofFields fields)
  | .ok "value_change" => orUnsupported "value_change" (change <$> ChangeCondition.ofFields fields)
  | .ok "time_based" => orUnsupported "time_based" (time <$> TimeCondition.ofFields fields)
  | .ok "device_status" => orUnsupported "device_status" (status <$> statusOfFields fields)
  | .ok "composite" => orUnsupported "composite" do
      let children ← children
      let connective ← fields.readOr "operator" (.choice Connective.table) .and
      return composite connective (children.getD [])
  | .ok kind => unsupported (some kind) .unknownCondition

mutual

def ofJson : Json → Condition
  | .object fields => ofFields fields (childrenIn fields)
  | _ => unsupported none .tagMissing

/-- The children under the first key `conditions`. -/
def childrenIn : Fields → Except Defect (Option (List (Addressed Condition)))
  | [] => .ok none
  | (key, value) :: rest => if key = "conditions" then some <$> childrenOf value else childrenIn rest

def childrenOf : Json → Except Defect (List (Addressed Condition))
  | .array items => .ok (ofItems items)
  | json => Reader.wrong json .sequence

def ofItems : List Json → List (Addressed Condition)
  | [] => []
  | item :: rest => ⟨deviceOf item, ofJson item⟩ :: ofItems rest

end

end Condition

namespace Trigger

/-- The rate limit of a document; one that is negative or no number counts as absent. -/
def minIntervalOf (json : Json) : Option Float :=
  (json.get? "min_interval_seconds" >>= Json.float?).filter (0 ≤ ·)

def ofJson (json : Json) : Trigger := ⟨minIntervalOf json, Condition.ofJson json⟩

def ofText (s : String) : Trigger :=
  match Json.read s with
  | .ok json => ofJson json
  | .error diagnosis => ⟨none, .unsupported none (.notJson (some diagnosis))⟩

end Trigger

end DeviceRules
