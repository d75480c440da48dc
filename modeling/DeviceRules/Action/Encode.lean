import DeviceRules.Action.Basic
import DeviceRules.Condition.Encode
import DeviceRules.Json.Writer

/-! Actions as documents, and as the short texts that messages show. -/
namespace DeviceRules

def Webhook.fields (hook : Webhook) : Fields :=
  [("url", .text hook.url), ("method", .text hook.method.name), ("payload", hook.payload),
    ("headers", .object (hook.headers.map fun (name, value) => (name, .text value))),
    ("timeout_seconds", .whole hook.timeoutSeconds.toNat)]

namespace Action

mutual

def fields : Action → Fields
  | command body => [("type", .text "device_command"), ("command", .object body)]
  | notification message channel =>
      [("type", .text "notification"), ("message", .text message), ("notification_type", .text channel)]
  | webhook hook => ("type", .text "webhook") :: hook.fields
  | delay seconds => [("type", .text "delay"), ("delay_seconds", .real seconds)]
  | sequence steps => [("type", .text "sequence"), ("actions", .array (stepItems steps))]
  | unsupported kind defect => unsupportedFields kind defect

def stepItems : List (Addressed Action) → List Json
  | [] => []
  | ⟨device, node⟩ :: rest => .object (deviceField device ++ node.fields) :: stepItems rest

end

def toJson (action : Action) : Json := .object action.fields

def display : Action → String
  | command body => "device_command(" ++ (Json.object body).toText ++ ")"
  | notification message channel => "notification(" ++ channel ++ ": " ++ message ++ ")"
  | webhook hook => "webhook(" ++ hook.method.name ++ " " ++ hook.url ++ ")"
  | delay seconds => "delay(" ++ Decimal.Form.message.text seconds ++ "s)"
  | sequence steps => "sequence(" ++ toString steps.length ++ " steps)"
  | unsupported kind defect => "unsupported(" ++ Text.quotedOption kind ++ ": " ++ defect.message ++ ")"

end Action

end DeviceRules
