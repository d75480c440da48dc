import DeviceRules.FileTree
import DeviceRules.Settings.Basic

/-! Loading the settings: from a file, if there is one, and then from variables of the environment, which win. -/
namespace DeviceRules

inductive FileContent
  | missing
  /-- It is no file, or its bytes are no text. -/
  | unreadable
  | text (s : String)

/-- What a written path reads in a tree of files, of which those hold nothing whose bytes are no text. -/
def FileContent.at (tree : FileTree (Option String)) (written : String) : FileContent :=
  match tree.walk written with
  | .missing => .missing
  | .directory _ | .blocked => .unreadable
  | .file path =>
      match tree.content? path with
      | some (some s) => .text s
      | _ => .unreadable

inductive SettingsError
  | unreadable
  | malformed
  | zeroTickInterval
  | zeroPort
  deriving DecidableEq, Repr

/-- What an invalid setting is told to be; the other errors quote the system or the reader. -/
def SettingsError.message? : SettingsError → Option String
  | zeroTickInterval => some "invalid configuration: engine.tick_interval_secs must be non-zero"
  | zeroPort => some "invalid configuration: mqtt.broker_port must be non-zero"
  | unreadable | malformed => none

/-- The value of a run of decimal digits, with a plus sign in front if you like, that fits so many bits. -/
def unsigned? (bits : Nat) (s : String) : Option Nat :=
  let digits := match s.toList with
    | '+' :: rest => rest
    | cs => cs
  let n := digits.foldl (fun n c => 10 * n + (c.toNat - '0'.toNat)) 0
  if !digits.isEmpty && digits.all Char.isDigit && n < 1 <<< bits then some n else none

namespace Settings

def defaultPath : String := "autorule.toml"

def ofFile : FileContent → Except SettingsError Settings
  | .missing => .ok {}
  | .unreadable => .error .unreadable
  | .text s =>
      match ofText? s with
      | some settings => .ok settings
      | none => .error .malformed

/-- The settings with those of the environment put over them. A number that cannot be read is passed over. -/
def override (env : String → Option String) (s : Settings) : Settings :=
  let number (bits : Nat) (name : String) := (env name).bind (unsigned? bits)
  { s with
    databaseUrl := (env "AUTORULE_DATABASE_URL").getD s.databaseUrl
    engine := { s.engine with
      tickIntervalSeconds := ((number 64 "AUTORULE_TICK_INTERVAL_SECS").map UInt64.ofNat).getD
        s.engine.tickIntervalSeconds }
    broker := { s.broker with
      host := (env "AUTORULE_MQTT_HOST").getD s.broker.host
      port := ((number 16 "AUTORULE_MQTT_PORT").map UInt16.ofNat).getD s.broker.port }
    logFilter := (env "RUST_LOG" <|> env "AUTORULE_LOG").getD s.logFilter }

/-- A pause and a port have to be there; the port of a broker that is not used does not matter. -/
def validate (s : Settings) : Except SettingsError Unit :=
  if s.engine.tickIntervalSeconds = 0 then .error .zeroTickInterval
  else if s.brokerEnabled && s.broker.port == 0 then .error .zeroPort
  else .ok ()

def load (tree : FileTree (Option String)) (env : String → Option String) : Except SettingsError Settings := do
  let settings ← ofFile (.at tree ((env "AUTORULE_CONFIG").getD defaultPath))
  let settings := settings.override env
  settings.validate
  return settings

end Settings

end DeviceRules
