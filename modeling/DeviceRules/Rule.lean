import DeviceRules.Action.Decode
import DeviceRules.Action.Encode
import DeviceRules.Condition.Decode
import DeviceRules.Fault

/-! Rules: a trigger with the device that its root reads, and an action with the device that its root drives;
and three samples of them for an empty store. -/
namespace DeviceRules

structure Rule where
  id : RuleId
  name : String
  description : Option String
  triggerDevice : DeviceId
  trigger : Trigger
  actionDevice : DeviceId
  action : Action
  active : Bool
  owner : OwnerId
  createdAt : Instant
  deriving BEq

namespace Rule

def validate (rule : Rule) : Except Fault Unit :=
  if Text.isBlankText rule.name then .error .blankName else .ok ()

def toJson (rule : Rule) : Json :=
  .object [("id", .text rule.id.uuid.text), ("name", .text rule.name),
    ("description", Json.optionalText rule.description), ("trigger_device_id", .text rule.triggerDevice.name),
    ("trigger_condition", rule.trigger.toJson), ("action_device_id", .text rule.actionDevice.name),
    ("action_command", rule.action.toJson), ("is_active", .bool rule.active),
    ("owner_id", .text rule.owner.uuid.text), ("created_at", .text rule.createdAt.text)]

/-- A rule given as an object, or as an array of its fields. -/
def ofJson : Reader Rule := fun json => do
  let names := ["id", "name", "description", "trigger_device_id", "trigger_condition", "action_device_id",
    "action_command", "is_active", "owner_id", "created_at"]
  let fields ← Fields.ofRecord names json
  let action ← fields.read? "action_command" .any
  let actionDevice ← fields.read? "action_device_id" .device
  let createdAt ← fields.read? "created_at" .instantField
  let description ← fields.readOr "description" (.optional .text) none
  let id ← fields.read? "id" .uuid
  let active ← fields.read? "is_active" .bool
  let name ← fields.read? "name" .text
  let owner ← fields.read? "owner_id" .uuid
  let trigger ← fields.read? "trigger_condition" .any
  let triggerDevice ← fields.read? "trigger_device_id" .device
  return {
    id := ⟨← Fields.required "id" id⟩
    name := ← Fields.required "name" name
    description
    triggerDevice := ← Fields.required "trigger_device_id" triggerDevice
    trigger := Trigger.ofJson (← Fields.required "trigger_condition" trigger)
    actionDevice := ← Fields.required "action_device_id" actionDevice
    action := Action.ofJson (← Fields.required "action_command" action)
    active := ← Fields.required "is_active" active
    owner := ⟨← Fields.required "owner_id" owner⟩
    createdAt := ← Fields.required "created_at" createdAt }

/-- A rule in the making. What is left out has a default. -/
structure Draft where
  id : Option RuleId := none
  name : String := ""
  description : Option String := none
  triggerDevice : DeviceId := ⟨""⟩
  trigger : Option Trigger := none
  actionDevice : DeviceId := ⟨""⟩
  action : Option Action := none
  active : Bool := true
  owner : Option OwnerId := none
  createdAt : Option Instant := none

/-- What a draft does not say: new identifiers and the time of its making. -/
structure Fresh where
  id : RuleId
  owner : OwnerId
  now : Instant

/-- The drafted rule. Without a condition it never fires, and without an action it does nothing. -/
def Draft.rule (draft : Draft) (fresh : Fresh) : Except Fault Rule := do
  let rule : Rule := {
    id := draft.id.getD fresh.id
    name := draft.name
    description := draft.description
    triggerDevice := draft.triggerDevice
    trigger := draft.trigger.getD ⟨none, .unsupported none .noCondition⟩
    actionDevice := draft.actionDevice
    action := draft.action.getD (.unsupported none .noAction)
    active := draft.active
    owner := draft.owner.getD fresh.owner
    createdAt := draft.createdAt.getD fresh.now }
  rule.validate
  return rule

end Rule

namespace SampleRules

def turnOn (brightness : Nat) : Action :=
  .command [("action", .text "turn_on"), ("brightness", .whole brightness)]

def motionLights : Rule.Draft where
  name := "Motion Activated Lights"
  description := some "Turn on living room light when motion is detected in hallway"
  triggerDevice := ⟨"motion_001"⟩
  trigger := some ⟨some 30, .threshold ⟨"motion", .eq, 1, 1⟩⟩
  actionDevice := ⟨"light_001"⟩
  action := some (turnOn 80)

def temperatureAlert : Rule.Draft where
  name := "High Temperature Alert"
  description := some "Send notification when temperature exceeds 25°C"
  triggerDevice := ⟨"temp_001"⟩
  trigger := some ⟨some 300, .threshold ⟨"temperature", .gt, 25, 5⟩⟩
  action := some (.notification "High temperature detected in Living Room" logChannel)

def eveningLights : Rule.Draft where
  name := "Evening Lights"
  description := some "Turn on all lights at sunset"
  trigger := some ⟨none, .time (.timeOfDay "18:00" "18:01")⟩
  actionDevice := ⟨"light_001"⟩
  action := some (.sequence [⟨some ⟨"light_001"⟩, turnOn 60⟩, ⟨some ⟨"light_002"⟩, turnOn 60⟩])

/-- The sample rules of an owner. `ids` are their identifiers. -/
def rules (owner : OwnerId) (ids : Nat → RuleId) (now : Instant) : Except Fault (List Rule) := do
  let build (n : Nat) (draft : Rule.Draft) := { draft with owner := some owner }.rule ⟨ids n, owner, now⟩
  return [← build 0 motionLights, ← build 1 temperatureAlert, ← build 2 eveningLights]

end SampleRules

end DeviceRules
