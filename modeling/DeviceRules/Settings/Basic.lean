import DeviceRules.Broker.Settings
import DeviceRules.Engine.Tick
import DeviceRules.Toml.Reader

/-! The settings of the daemon. Every one of them has a default. -/
namespace DeviceRules

structure EngineSection where
  tickIntervalSeconds : UInt64 := 5
  defaultMinIntervalSeconds : UInt64 := Trigger.defaultMinInterval
  evictStale : Bool := true

structure Settings where
  engine : EngineSection := {}
  databaseUrl : String := "sqlite:autorule.db?mode=rwc"
  /-- Whether commands go to a broker rather than to simulated devices. -/
  brokerEnabled : Bool := true
  broker : BrokerSettings := {}
  userAgent : String := "autorule/0.1.0"
  logFilter : String := "autoruled=info,autorule_app=info,autorule_adapter_mqtt=info"
  /-- Whether the sample rules are put into an empty store. -/
  seedSampleRules : Bool := false

namespace Settings

/-- The section called `name` of a document, empty when there is none. -/
def sectionOf (fields : Fields) (name : String) (names : List String) : Except Defect Fields :=
  fields.readOr name (Fields.ofSection names) []

/-- An object without entries, which stands for nothing. -/
def isEmptyTable : Json → Bool
  | .object [] => true
  | _ => false

/-- The settings of a document. Sections and keys that are not known are passed over. The section of the broker is
always a table. -/
def ofFields (fields : Fields) : Except Defect Settings := do
  let absent : Settings := {}
  let engine ← sectionOf fields "engine"
    ["tick_interval_secs", "default_min_interval_secs", "evict_stale_fire_state"]
  let database ← sectionOf fields "database" ["url"]
  let mqtt ← fields.readOr "mqtt" .map []
  let webhook ← sectionOf fields "webhook" ["user_agent"]
  let logging ← sectionOf fields "logging" ["filter"]
  let demo ← sectionOf fields "demo" ["seed_sample_rules"]
  return {
    engine := {
      tickIntervalSeconds := ← engine.readOr "tick_interval_secs" .long absent.engine.tickIntervalSeconds
      defaultMinIntervalSeconds :=
        ← engine.readOr "default_min_interval_secs" .long absent.engine.defaultMinIntervalSeconds
      evictStale := ← engine.readOr "evict_stale_fire_state" .bool absent.engine.evictStale }
    databaseUrl := ← database.readOr "url" .text absent.databaseUrl
    brokerEnabled := ← mqtt.readOr "enabled" .bool absent.brokerEnabled
    broker := ← BrokerSettings.ofFields isEmptyTable mqtt
    userAgent := ← webhook.readOr "user_agent" .text absent.userAgent
    logFilter := ← logging.readOr "filter" .text absent.logFilter
    seedSampleRules := ← demo.readOr "seed_sample_rules" .bool absent.seedSampleRules }

def ofText? (s : String) : Option Settings :=
  match Toml.ofText? s with
  | some (.object fields) => (ofFields fields).toOption
  | _ => none

def engineSettings (s : Settings) : EngineSettings where
  tickInterval := .ofWholeSeconds s.engine.tickIntervalSeconds
  defaultMinInterval := s.engine.defaultMinIntervalSeconds
  evictStale := s.engine.evictStale

end Settings

end DeviceRules
