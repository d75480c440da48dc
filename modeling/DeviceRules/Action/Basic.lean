import DeviceRules.Defect
import DeviceRules.Identifier
import DeviceRules.Time.Duration

/-! Actions: what a rule does when it fires. -/
namespace DeviceRules

/-- A command is a free-form object that a device understands. -/
abbrev Command := Fields

inductive HttpMethod
  | get | post
  deriving DecidableEq, Repr

namespace HttpMethod

def name : HttpMethod → String
  | get => "GET" | post => "POST"

/-- The method of a name in any case of its ASCII letters. -/
def ofName (name : String) : Except Defect HttpMethod :=
  let upper := name.toList.map Char.toUpper
  if upper = "GET".toList then .ok get
  else if upper = "POST".toList then .ok post
  else .error (.badMethod name)

end HttpMethod

/-- A call of an HTTP endpoint. The payload is the body of a POST and the query of a GET. -/
structure Webhook where
  url : String
  method : HttpMethod
  payload : Json
  headers : List (String × String)
  timeoutSeconds : UInt64
  deriving BEq

/-- A call as it is handed to a client, with its timeout as a duration. -/
structure WebhookRequest where
  url : String
  method : HttpMethod
  payload : Json
  headers : List (String × String)
  timeout : Duration
  deriving BEq

def Webhook.request (hook : Webhook) : WebhookRequest :=
  { url := hook.url, method := hook.method, payload := hook.payload, headers := hook.headers,
    timeout := .ofWholeSeconds hook.timeoutSeconds }

def isSuccess (status : Nat) : Bool := 200 ≤ status && status < 300

/-- The channel on which a notification is a line of the log, the only one there is. -/
def logChannel : String := "log"

/-- What to do when a rule fires. A step of a sequence names its own device. A node that could not be decoded is
kept as such. -/
inductive Action
  | command (body : Command)
  | notification (message channel : String)
  | webhook (hook : Webhook)
  | delay (seconds : Float)
  | sequence (steps : List (Addressed Action))
  | unsupported (kind : Option String) (defect : Defect)
  deriving BEq

/-- The kind that a document names in `type`. -/
def Action.kind : Action → String
  | command _ => "device_command"
  | notification _ _ => "notification"
  | webhook _ => "webhook"
  | delay _ => "delay"
  | sequence _ => "sequence"
  | unsupported kind _ => kind.getD "unknown"

end DeviceRules
