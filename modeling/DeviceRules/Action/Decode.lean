import DeviceRules.Action.Basic
import DeviceRules.Condition.Decode

/-! Actions from documents. As with conditions, decoding never fails, and a bad node stays local. -/
namespace DeviceRules

def Reader.method : Reader HttpMethod := fun json => do HttpMethod.ofName (← Reader.text json)

def defaultHeaders : List (String × String) := [("Content-Type", "application/json")]

def Webhook.ofFields (fields : Fields) : Except Defect Webhook := do
  let headers ← fields.readOr "headers" .textMap defaultHeaders
  let method ← fields.readOr "method" .method .post
  let payload ← fields.readOr "payload" .any (.object [])
  let timeoutSeconds ← fields.readOr "timeout_seconds" .long 10
  let url ← Fields.required "url" (← fields.read? "url" .text)
  return { url, method, payload, headers, timeoutSeconds }

namespace Action

def commandOfFields (fields : Fields) : Except Defect Action :=
  return command (← fields.readOr "command" .map [])

def notificationOfFields (fields : Fields) : Except Defect Action := do
  let message ← fields.readOr "message" .text "Automation rule triggered"
  let channel ← fields.readOr "notification_type" .text logChannel
  return notification message channel

def delayOfFields (fields : Fields) : Except Defect Action :=
  return delay (← fields.readOr "delay_seconds" .double 1)

/-- The decoded node, or an unsupported one that keeps the kind. -/
def orUnsupported (kind : String) : Except Defect Action → Action
  | .ok action => action
  | .error defect => unsupported (some kind) defect

/-- A node whose steps are decoded already. -/
def ofFields (fields : Fields) (steps : Except Defect (Option (List (Addressed Action)))) : Action :=
  match kindOf fields with
  | .error defect => unsupported none defect
  | .ok "device_command" => orUnsupported "device_command" (commandOfFields fields)
  | .ok "notification" => orUnsupported "notification" (notificationOfFields fields)
  | .ok "webhook" => orUnsupported "webhook" (webhook <$> Webhook.ofFields fields)
  | .ok "delay" => orUnsupported "delay" (delayOfFields fields)
  | .ok "sequence" => orUnsupported "sequence" ((fun steps => sequence (steps.getD [])) <$> steps)
  | .ok kind => unsupported (some kind) .unknownAction

mutual

def ofJson : Json → Action
  | .object fields => ofFields fields (stepsIn fields)
  | _ => unsupported none .tagMissing

/-- The steps under the first key `actions`. -/
def stepsIn : Fields → Except Defect (Option (List (Addressed Action)))
  | [] => .ok none
  | (key, value) :: rest => if key = "actions" then some <$> stepsOf value else stepsIn rest

def stepsOf : Json → Except Defect (List (Addressed Action))
  | .array items => .ok (ofItems items)
  | json => Reader.wrong json .sequence

def ofItems : List Json → List (Addressed Action)
  | [] => []
  | item :: rest => ⟨deviceOf item, ofJson item⟩ :: ofItems rest

end

def ofText (s : String) : Action :=
  match Json.read s with
  | .ok json => ofJson json
  | .error diagnosis => unsupported none (.notJson (some diagnosis))

end Action

end DeviceRules
