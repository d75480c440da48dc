import DeviceRules.Database.Rules
import DeviceRules.Database.Telemetry
import DeviceRules.Memory

/-! A simulated world for trying rules out: stores in memory or in a database, simulated devices, scripted answers
to requests, a clock that is set by hand, and faults that are switched on and off. -/
namespace DeviceRules

inductive RuleStore
  | memory (list : RuleList)
  /-- A store that returns rules whether they are active or not. -/
  | everything (rules : List Rule)
  | database (table : RuleTable)

namespace RuleStore

/-- Puts in a rule; the list of everything takes any. -/
def insert (rule : Rule) : RuleStore → Except Fault RuleStore
  | memory list => memory <$> list.insert rule
  | everything rules => .ok (everything (rules ++ [rule]))
  | database table => database <$> table.insert rule

/-- Switches the first rule called `id` on or off, and says whether there is one. -/
def setActive (id : RuleId) (active : Bool) : RuleStore → Bool × RuleStore
  | memory list => (list.setActive id active).map (fun known => known) memory
  | everything rules => (RuleList.setActive ⟨rules⟩ id active).map (fun known => known) fun l => everything l.rules
  | database table => (table.setActive id active).map (fun known => known) database

def count : RuleStore → Nat
  | memory list => list.rules.length
  | everything rules => rules.length
  | database table => table.count

def load : RuleStore → Traced (List Rule)
  | memory list => ⟨list.activeRules, []⟩
  | everything rules => ⟨rules, []⟩
  | database table => table.activeRules

end RuleStore

inductive TelemetryStore
  | memory (log : TelemetryLog)
  | database (tables : TelemetryTables)

namespace TelemetryStore

def record (sample : Sample) : TelemetryStore → Except Outage TelemetryStore
  | memory log => .ok (memory (log.record sample))
  | database tables => database <$> tables.record sample

def setStatus (device : DeviceId) (status : String) : TelemetryStore → TelemetryStore
  | memory log => memory (log.setStatus device status)
  | database tables => database (tables.setStatus device status)

def telemetry : TelemetryStore → Telemetry
  | memory log => log.telemetry
  | database tables => tables.telemetry

/-- The log that simulated devices keep their statuses in. -/
def devices : TelemetryStore → Option TelemetryLog
  | memory log => some log
  | database _ => none

end TelemetryStore

structure World where
  rules : RuleStore
  rulesDown : Bool
  telemetry : TelemetryStore
  /-- The devices about which no question is answered. -/
  failing : List DeviceId
  channel : CommandChannel
  brokerDown : Bool
  /-- The status with which each address answers, or none for one that does not answer. -/
  webhooks : List (String × Option Nat)
  clock : Instant
  clockMoves : Bool
  /-- How many minutes the wall clock is ahead of UTC. -/
  offset : Int
  /-- The milliseconds spent in pauses. -/
  elapsed : Nat

namespace World

def new (rules : RuleStore) (telemetry : TelemetryStore) (clock : Instant) (clockMoves : Bool) : World where
  rules := rules
  rulesDown := false
  telemetry := telemetry
  failing := []
  channel := .empty
  brokerDown := false
  webhooks := []
  clock := clock
  clockMoves := clockMoves
  offset := 0
  elapsed := 0

def memory (clock : Instant) : World := new (.memory .empty) (.memory .empty) clock true

def everything (clock : Instant) : World := new (.everything []) (.memory .empty) clock true

def database (clock : Instant) : World := new (.database .empty) (.database .empty) clock false

/-- Moves the clock by some milliseconds, or back by a negative number of them. -/
def advance (world : World) (millis : Int) : World :=
  let moved := if 0 ≤ millis then world.clock.plus? (millis.toNat * 1000000)
    else world.clock.minus? (millis.natAbs * 1000000)
  { world with clock := moved.getD world.clock }

def setFailing (world : World) (device : DeviceId) (failing : Bool) : World :=
  let others := world.failing.filter (· ≠ device)
  { world with failing := if failing then device :: others else others }

def setWebhook (world : World) (url : String) (status : Option Nat) : World :=
  { world with webhooks := (url, status) :: world.webhooks.filter (·.1 ≠ url) }

/-- The number of milliseconds that a pause takes: timers go off at whole milliseconds, and a pause beyond the
range of the clock takes thirty years. -/
def pauseMillis (d : Duration) : Nat :=
  if d.seconds < 0x8000000000000000 then (d.nanos + 999999) / 1000000 else 30 * 365 * 86400 * 1000

def pass (world : World) (millis : Nat) : World :=
  let moved := if world.clockMoves then world.advance millis else world
  { moved with elapsed := world.elapsed + millis }

/-- What the telemetry store answers, with the devices that fail. -/
def answers (world : World) : Telemetry :=
  let inner := world.telemetry.telemetry
  { samples := fun device dataType since limit =>
      if world.failing.contains device then .error (.unavailable .telemetryStore)
      else inner.samples device dataType since limit
    status := fun device =>
      if world.failing.contains device then .error (.unavailable .telemetryStore) else inner.status device }

def publish (device : DeviceId) (command : Command) (world : World) : Outcome World (Except Outage Bool) :=
  if world.brokerDown then ⟨.error (.unavailable .broker), [], world⟩
  else
    let sent := world.channel.publish world.telemetry.devices device command
    let telemetry := match sent.world.2 with
      | some log => .memory log
      | none => world.telemetry
    ⟨.ok sent.value, sent.events, { world with channel := sent.world.1, telemetry }⟩

/-- The scripted answer of an address; `*` stands for every other address, and without it all is well. -/
def answer (world : World) (url : String) : Option Nat :=
  match world.webhooks.lookup url, world.webhooks.lookup "*" with
  | some status, _ => status
  | none, some status => status
  | none, none => some 200

def send (request : WebhookRequest) (world : World) : Outcome World (Except Outage Nat) :=
  match world.answer request.url with
  | some status => ⟨.ok status, [], world⟩
  | none => ⟨.error (.unavailable .webhookTarget), [], world⟩

def loadRules (world : World) : Traced (Except Outage (List Rule)) :=
  if world.rulesDown then ⟨.error (.unavailable .ruleStore), []⟩
  else
    let loaded := world.rules.load
    ⟨.ok loaded.value, loaded.events⟩

theorem loadRules_reports (world : World) : ∀ event ∈ world.loadRules.events, event.isOwn = false := by
  unfold loadRules RuleStore.load
  split
  · simp
  · cases world.rules with
    | memory | everything => simp
    | database table => exact RuleTable.rulesOf_reports _

theorem publish_reports (device : DeviceId) (command : Command) (world : World) :
    ∀ event ∈ (world.publish device command).events, event.isOwn = false := by
  unfold publish CommandChannel.publish
  split
  · simp
  · split <;> simp [Event.isOwn]

theorem send_reports (request : WebhookRequest) (world : World) :
    ∀ event ∈ (world.send request).events, event.isOwn = false := by
  unfold send
  split <;> simp

/-- The simulated world. Its clock stands still but for pauses. -/
def surroundings : Surroundings World where
  elapse world := world
  now world := world.clock
  localTime world := .ofInstant world.clock world.offset
  rules := loadRules
  telemetry := answers
  publish := publish
  send := send
  wait duration world := world.pass (pauseMillis duration)
  rules_reports := loadRules_reports
  publish_reports := publish_reports
  send_reports := send_reports

end World

end DeviceRules
