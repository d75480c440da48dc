import DeviceRules.Field

/-! Where and how commands are published. -/
namespace DeviceRules

inductive DeliveryGuarantee
  | atMostOnce | atLeastOnce | exactlyOnce
  deriving DecidableEq, Repr

namespace DeliveryGuarantee

def table : List (String × DeliveryGuarantee) :=
  [("at_most_once", atMostOnce), ("at_least_once", atLeastOnce), ("exactly_once", exactlyOnce)]

def level : DeliveryGuarantee → Nat
  | atMostOnce => 0 | atLeastOnce => 1 | exactlyOnce => 2

end DeliveryGuarantee

structure Credentials where
  username : String
  password : String
  deriving DecidableEq

namespace Credentials

/-- The text of credentials in a log, which keeps the password to itself. -/
def masked (c : Credentials) : String :=
  "MqttCredentials \x7b username: " ++ Text.quoted c.username ++ ", password: \"***\" \x7d"

def ofJson : Reader Credentials := fun json => do
  let fields ← Fields.ofRecord ["username", "password"] json
  let password ← fields.read? "password" .text
  let username ← fields.read? "username" .text
  return {
    username := ← Fields.required "username" username
    password := ← Fields.required "password" password }

end Credentials

structure BrokerSettings where
  host : String := "localhost"
  port : UInt16 := 1883
  clientId : String := "autorule"
  /-- The topics of all devices begin with this. -/
  baseTopic : String := "devices"
  keepAliveSeconds : UInt16 := 60
  reconnectDelaySeconds : UInt16 := 5
  guarantee : DeliveryGuarantee := .atLeastOnce
  credentials : Option Credentials := none

namespace BrokerSettings

def names : List String :=
  ["broker_host", "broker_port", "client_id", "base_topic", "keep_alive_secs", "reconnect_delay_secs", "qos",
    "credentials"]

/-- The settings among some fields; what is left out has its default. A guarantee may be written as an object
whose one value `isUnit` accepts. -/
def ofFields (isUnit : Json → Bool) (fields : Fields) : Except Defect BrokerSettings := do
  let absent : BrokerSettings := {}
  return {
    host := ← fields.readOr "broker_host" .text absent.host
    port := ← fields.readOr "broker_port" .half absent.port
    clientId := ← fields.readOr "client_id" .text absent.clientId
    baseTopic := ← fields.readOr "base_topic" .text absent.baseTopic
    keepAliveSeconds := ← fields.readOr "keep_alive_secs" .half absent.keepAliveSeconds
    reconnectDelaySeconds := ← fields.readOr "reconnect_delay_secs" .half absent.reconnectDelaySeconds
    guarantee := ← fields.readOr "qos" (.choiceWith isUnit DeliveryGuarantee.table) absent.guarantee
    credentials := ← fields.readOr "credentials" (.optional Credentials.ofJson) absent.credentials }

/-- The settings of a JSON document. Given as an array, it has no more items than there are settings. -/
def ofJson : Reader BrokerSettings := fun json => do
  let fields ← Fields.ofSection names json
  match json with
  | .array items => if names.length < items.length then .error (.wrongLength items.length)
  | _ => pure ()
  ofFields Reader.isNull fields

def reconnectDelay (s : BrokerSettings) : Duration := .ofWholeSeconds s.reconnectDelaySeconds.toUInt64

def keepAlive (s : BrokerSettings) : Duration := .ofWholeSeconds s.keepAliveSeconds.toUInt64

end BrokerSettings

/-- What a client asks for when it connects. Sessions are always clean. -/
structure ConnectRequest where
  host : String
  port : UInt16
  clientId : String
  keepAlive : Duration
  cleanSession : Bool
  username : Option String
  password : Option String

/-- The request of a client with these settings. An empty name or password is not sent. -/
def BrokerSettings.connectRequest (s : BrokerSettings) : ConnectRequest :=
  { host := s.host, port := s.port, clientId := s.clientId, keepAlive := s.keepAlive, cleanSession := true,
    username := (s.credentials.map (·.username)).filter (· != "")
    password := (s.credentials.map (·.password)).filter (· != "") }

end DeviceRules
