import DeviceRules.Condition.Basic
import DeviceRules.Json.Basic
import DeviceRules.Time.Format

/-! Conditions as documents, and as the short texts that messages show. A node is written with its kind first,
then its fields; a child is written with its device in front, if it names one. -/
namespace DeviceRules

def Json.optionalText : Option String → Json
  | some s => .text s
  | none => .null

def ThresholdCondition.fields (c : ThresholdCondition) : Fields :=
  [("data_type", .text c.dataType), ("operator", .text c.comparison.name), ("threshold", .real c.threshold),
    ("time_window_minutes", .real c.windowMinutes)]

def ChangeCondition.fields (c : ChangeCondition) : Fields :=
  [("data_type", .text c.dataType), ("change_type", .text c.direction.name), ("min_change", .real c.least),
    ("time_window_minutes", .real c.windowMinutes)]

def TimeCondition.fields : TimeCondition → Fields
  | timeOfDay start stop =>
      [("time_type", .text "time_of_day"), ("start_time", .text start), ("end_time", .text stop)]
  | dayOfWeek days =>
      [("time_type", .text "day_of_week"), ("days", .array (days.map fun d => .whole d.toNat))]
  | interval minutes lastTrigger =>
      [("time_type", .text "interval"), ("interval_minutes", .whole minutes.toNat)] ++
        (match lastTrigger with
        | some t => [("last_trigger", .text t.text)]
        | none => [])

def deviceField : Option DeviceId → Fields
  | some d => [("device_id", .text d.name)]
  | none => []

def unsupportedFields (kind : Option String) (defect : Defect) : Fields :=
  [("type", .text "unsupported"), ("kind", Json.optionalText kind), ("reason", .text defect.message)]

namespace Condition

mutual

def fields : Condition → Fields
  | threshold c => ("type", .text "value_threshold") :: c.fields
  | change c => ("type", .text "value_change") :: c.fields
  | time c => ("type", .text "time_based") :: c.fields
  | status expected => [("type", .text "device_status"), ("status", .text expected)]
  | composite connective children =>
      [("type", .text "composite"), ("operator", .text connective.name),
        ("conditions", .array (childItems children))]
  | unsupported kind defect => unsupportedFields kind defect

def childItems : List (Addressed Condition) → List Json
  | [] => []
  | ⟨device, node⟩ :: rest => .object (deviceField device ++ node.fields) :: childItems rest

end

def timeDisplay : TimeCondition → String
  | .timeOfDay start stop =>
      "TimeOfDay \x7b start_time: " ++ Text.quoted start ++ ", end_time: " ++ Text.quoted stop ++ " \x7d"
  | .dayOfWeek days =>
      "DayOfWeek \x7b days: [" ++ ", ".intercalate (days.map fun d => toString d.toNat) ++ "] \x7d"
  | .interval minutes lastTrigger =>
      let last := match lastTrigger with
        | some t => "Some(" ++ t.text ++ ")"
        | none => "None"
      "Interval \x7b interval_minutes: " ++ toString minutes.toNat ++ ", last_trigger: " ++ last ++ " \x7d"

def display : Condition → String
  | threshold c =>
      "value_threshold(" ++ c.dataType ++ " " ++ c.comparison.name ++ " " ++
        Decimal.Form.message.text c.threshold ++ " in " ++ Decimal.Form.message.text c.windowMinutes ++ "m)"
  | change c =>
      "value_change(" ++ c.dataType ++ " " ++ c.direction.title ++ " >= " ++
        Decimal.Form.message.text c.least ++ " in " ++ Decimal.Form.message.text c.windowMinutes ++ "m)"
  | time c => "time_based(" ++ timeDisplay c ++ ")"
  | status expected => "device_status(" ++ expected ++ ")"
  | composite connective children =>
      "composite(" ++ connective.title ++ ", " ++ toString children.length ++ " children)"
  | unsupported kind defect => "unsupported(" ++ Text.quotedOption kind ++ ": " ++ defect.message ++ ")"

end Condition

/-- A trigger as a document: the rate limit, if it sets one, before the node. -/
def Trigger.toJson (t : Trigger) : Json :=
  .object ((match t.minInterval with
    | some seconds => [("min_interval_seconds", .real seconds)]
    | none => []) ++ t.condition.fields)

end DeviceRules
