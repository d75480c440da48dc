import DeviceRules.Execution

/-! What is held in memory: samples and device statuses, simulated devices, and rules. A device that is not offline
accepts every command; those that switch it on or off also change its status, if the statuses are kept. -/
namespace DeviceRules

/-- Every sample in the order of recording, and the last status of each device that has one. -/
structure TelemetryLog where
  samples : List Sample
  statuses : List (DeviceId × String)

namespace TelemetryLog

def empty : TelemetryLog := ⟨[], []⟩

instance : Inhabited TelemetryLog := ⟨empty⟩

def record (log : TelemetryLog) (sample : Sample) : TelemetryLog :=
  { log with samples := log.samples ++ [sample] }

def setStatus (log : TelemetryLog) (device : DeviceId) (status : String) : TelemetryLog :=
  { log with statuses := (device, status) :: log.statuses.filter (·.1 ≠ device) }

def status? (log : TelemetryLog) (device : DeviceId) : Option String := log.statuses.lookup device

/-- Whether a sample is one of a device and data type, taken at `since` or later. -/
def isRecent (device : DeviceId) (dataType : String) (since : Instant) (s : Sample) : Bool :=
  s.device == device && s.dataType == dataType && decide (since ≤ s.timestamp)

/-- The newest samples first, at most `limit` of them. Of two with the same time the later recording is first. -/
def recent (log : TelemetryLog) (device : DeviceId) (dataType : String) (since : Instant) (limit : Nat) :
    List Sample :=
  let found := log.samples.reverse.filter (isRecent device dataType since)
  (sortBy (fun a b => decide (b.timestamp ≤ a.timestamp)) found).take limit

def telemetry (log : TelemetryLog) : Telemetry where
  samples device dataType since limit := .ok (log.recent device dataType since limit)
  status device := .ok (log.status? device)

end TelemetryLog

/-- The commands accepted so far, oldest first, and the devices that cannot be reached. -/
structure CommandChannel where
  sent : List (DeviceId × Command)
  offline : List DeviceId

namespace CommandChannel

def empty : CommandChannel := ⟨[], []⟩

def setOffline (channel : CommandChannel) (device : DeviceId) (offline : Bool) : CommandChannel :=
  let others := channel.offline.filter (· ≠ device)
  { channel with offline := if offline then device :: others else others }

def reaches (channel : CommandChannel) (device : DeviceId) : Bool := !channel.offline.contains device

def statusAfter (status : Option String) (action : String) : Option String :=
  match action with
  | "turn_on" => some "on"
  | "turn_off" => some "off"
  | "toggle" => some (if status = some "on" then "off" else "on")
  | _ => status

def actionOf? (command : Command) : Option String := command.get? "action" >>= Json.text?

def drive (log : TelemetryLog) (device : DeviceId) (command : Command) : TelemetryLog :=
  match actionOf? command >>= statusAfter (log.status? device) with
  | some status => log.setStatus device status
  | none => log

/-- Hands a command to a device. Without `devices` no status is kept. -/
def publish (channel : CommandChannel) (devices : Option TelemetryLog) (device : DeviceId) (command : Command) :
    Outcome (CommandChannel × Option TelemetryLog) Bool :=
  if channel.reaches device then
    ⟨true, [.received device command],
      ({ channel with sent := channel.sent ++ [(device, command)] }, devices.map (drive · device command))⟩
  else ⟨false, [], (channel, devices)⟩

end CommandChannel

/-- The rules in the order of insertion. Identifiers need not be unique. -/
structure RuleList where
  rules : List Rule

namespace RuleList

def empty : RuleList := ⟨[]⟩

def insert (list : RuleList) (rule : Rule) : Except Fault RuleList := do
  rule.validate
  return ⟨list.rules ++ [rule]⟩

/-- Switches the first rule called `id` on or off. -/
def setFirst (id : RuleId) (active : Bool) : List Rule → List Rule
  | [] => []
  | rule :: rest => if rule.id = id then { rule with active } :: rest else rule :: setFirst id active rest

def contains (list : RuleList) (id : RuleId) : Bool := list.rules.any (·.id = id)

/-- Switches the first rule called `id` on or off, and says whether there is one. -/
def setActive (list : RuleList) (id : RuleId) (active : Bool) : Bool × RuleList :=
  (list.contains id, ⟨setFirst id active list.rules⟩)

def activeRules (list : RuleList) : List Rule := list.rules.filter (·.active)

end RuleList

end DeviceRules
