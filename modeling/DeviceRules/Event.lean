import DeviceRules.Action.Encode
import DeviceRules.Fault

/-! What happens while rules are evaluated and carried out, as one list of events in the order in which they
happen. The questions to the telemetry store, the side effects and the log are all read off this list. -/
namespace DeviceRules

inductive Query
  /-- The newest samples of a device and data type since an instant, at most `limit` of them. -/
  | samples (device : DeviceId) (dataType : String) (since : Instant) (limit : Nat)
  | status (device : DeviceId)
  deriving DecidableEq

inductive Effect
  | publish (device : DeviceId) (command : Command)
  | request (request : WebhookRequest)
  | notify (message : String)
  | wait (duration : Duration)
  deriving BEq

inductive Event
  | asked (query : Query)
  /-- A child of a composite condition could not be evaluated and counts as false. -/
  | childMisconfigured (kind : String) (error : ConfigurationError)
  /-- A side effect is attempted; what comes of it follows. -/
  | attempted (effect : Effect)
  | received (device : DeviceId) (command : Command)
  | published (device : DeviceId) (command : Command)
  | answered (request : WebhookRequest) (status : Nat)
  | stepFailed (index : Nat) (kind : String) (fault : Fault)
  | triggered (action : Action)
  | conditionFailed (fault : Fault)
  | actionFailed (fault : Fault)
  | tickSkipped (outage : Outage)
  | engineStarted
  | engineStopped
  | creationUnreadable (rule : RuleId) (text : String)
  /-- A stored row is no rule; `key` is its identifier in base sixteen. -/
  | rowSkipped (key : String)
  /-- A command was dropped because there is no session with the broker. -/
  | brokerMissing (device : DeviceId)
  | brokerAccepted
  | brokerRefused (code : Nat)
  | brokerClosed
  | brokerFailed (words : String)

namespace Event

def query? : Event → Option Query
  | asked query => some query
  | _ => none

def effect? : Event → Option Effect
  | attempted effect => some effect
  | _ => none

/-- Whether the event is a question or an attempt of the engine itself. -/
def isOwn : Event → Bool
  | asked _ | attempted _ => true
  | _ => false

def received? : Event → Option (DeviceId × Command)
  | received device command => some (device, command)
  | _ => none

end Event

def Effect.request? : Effect → Option WebhookRequest
  | request r => some r
  | _ => none

inductive Level
  | info | warn | error
  deriving DecidableEq, Repr

def Level.name : Level → String
  | info => "INFO" | warn => "WARN" | error => "ERROR"

/-- A line of the log: a text, sometimes a message of the user, and named values. -/
structure LogLine where
  level : Level
  text : String
  message : Option String := none
  fields : Fields := []

namespace Event

/-- A misconfigured rule is a warning, everything else an error. -/
def faultLevel (fault : Fault) : Level := if fault.isConfiguration then .warn else .error

def line? : Event → Option LogLine
  | asked _ => none
  | childMisconfigured kind error =>
      some { level := .warn, text := "composite child misconfigured, treating as false",
             fields := [("child", .text kind), ("error", .text error.message)] }
  | attempted (.notify message) =>
      some { level := .info, text := "automation notification", message := some message }
  | attempted _ => none
  | received device _ =>
      some { level := .info, text := "virtual device received command",
             fields := [("device_id", .text device.name)] }
  | published device _ =>
      some { level := .info, text := "command sent", fields := [("device_id", .text device.name)] }
  | answered request status =>
      some { level := .info, text := "webhook executed",
             fields := [("url", .text request.url), ("method", .text request.method.name),
               ("status", .whole status)] }
  | stepFailed index kind fault =>
      some { level := faultLevel fault,
             text := if fault.isConfiguration then "sequence step skipped" else "sequence step failed",
             fields := [("step", .whole index), ("action", .text kind), ("error", .text fault.message)] }
  | triggered action =>
      some { level := .info, text := "rule triggered", fields := [("action", .text action.display)] }
  | conditionFailed fault =>
      some { level := faultLevel fault,
             text := if fault.isConfiguration then "condition misconfigured, treating as false"
               else "condition evaluation failed",
             fields := [("error", .text fault.message)] }
  | actionFailed fault =>
      some { level := faultLevel fault,
             text := if fault.isConfiguration then "action misconfigured" else "action failed",
             fields := [("error", .text fault.message)] }
  | tickSkipped outage =>
      some { level := .error, text := "failed to load active rules, skipping tick",
             fields := [("error", .text (Fault.outage outage).message)] }
  | engineStarted => some { level := .info, text := "rule engine started" }
  | engineStopped => some { level := .info, text := "rule engine stopped" }
  | creationUnreadable rule text =>
      some { level := .warn, text := "unreadable creation time",
             fields := [("rule_id", .text rule.uuid.text), ("created_at", .text text)] }
  | rowSkipped key =>
      some { level := .warn, text := "skipping undecodable rule row", fields := [("row_key", .text key)] }
  | brokerMissing device =>
      some { level := .warn, text := "MQTT broker not connected, command dropped",
             fields := [("device_id", .text device.name)] }
  | brokerAccepted => some { level := .info, text := "connected to MQTT broker" }
  | brokerRefused code =>
      some { level := .warn, text := "MQTT broker refused the connection", fields := [("code", .whole code)] }
  | brokerClosed => some { level := .warn, text := "MQTT broker closed the connection" }
  | brokerFailed words =>
      some { level := .warn, text := "MQTT connection error, retrying", fields := [("error", .text words)] }

end Event

end DeviceRules
