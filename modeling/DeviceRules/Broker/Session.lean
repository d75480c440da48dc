import DeviceRules.Broker.Settings
import DeviceRules.Execution
import DeviceRules.Json.Writer

/-! The session with the broker, and what it lets through. Commands are published only while the latest word of
the broker is that it has accepted the connection. -/
namespace DeviceRules

structure BrokerMessage where
  topic : String
  guarantee : DeliveryGuarantee
  retain : Bool
  payload : String

inductive BrokerEvent
  /-- The answer to the connection request; code 0 accepts it. -/
  | acknowledged (code : Nat)
  | disconnected
  | failed (words : String)
  | other

/-- The topic on which a device listens for commands. Slashes at the end of the base do not count. -/
def commandTopic (base : String) (device : DeviceId) : String :=
  String.ofList ((base.toList.reverse.dropWhile (· == '/')).reverse) ++ "/" ++ device.name ++ "/commands"

/-- A topic to publish on names no pattern. -/
def isTopic (topic : String) : Bool := topic.toList.all fun c => c != '+' && c != '#'

/-- Whether the broker has accepted the current connection. -/
structure BrokerSession where
  connected : Bool
  deriving DecidableEq, Repr

namespace BrokerSession

def start : BrokerSession := ⟨false⟩

def eventsOf : BrokerEvent → List Event
  | .acknowledged code => [if code = 0 then .brokerAccepted else .brokerRefused code]
  | .disconnected => [.brokerClosed]
  | .failed words => [.brokerFailed words]
  | .other => []

def after (session : BrokerSession) : BrokerEvent → BrokerSession
  | .acknowledged code => ⟨code == 0⟩
  | .disconnected => ⟨false⟩
  | .failed _ => ⟨false⟩
  | .other => session

def message (settings : BrokerSettings) (device : DeviceId) (command : Command) : BrokerMessage where
  topic := commandTopic settings.baseTopic device
  guarantee := settings.guarantee
  retain := false
  payload := (Json.object command).toText

/-- What becomes of a command: whether it was published, and the message that the client is handed. -/
structure Publication where
  value : Except Outage Bool
  message : Option BrokerMessage
  events : List Event

/-- Publishes a command. Without a connection it is dropped; `accepts` says which messages the client takes. -/
def publish (settings : BrokerSettings) (accepts : BrokerMessage → Bool) (session : BrokerSession)
    (device : DeviceId) (command : Command) : Publication :=
  if session.connected then
    let message := message settings device command
    if accepts message then ⟨.ok true, some message, []⟩
    else ⟨.error (.refused ("MQTT client error: invalid topic " ++ message.topic)), none, []⟩
  else ⟨.ok false, none, [.brokerMissing device]⟩

/-- The client takes every message on a topic that is no pattern. -/
def takes (message : BrokerMessage) : Bool := isTopic message.topic

end BrokerSession

end DeviceRules
