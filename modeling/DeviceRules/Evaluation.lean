import DeviceRules.Event
import DeviceRules.Sample
import DeviceRules.Time.Reading

/-! Whether a condition holds. Evaluation goes through a tree from left to right and stops as soon as the value is
decided. Each child of a composite is evaluated for its own device, and a misconfigured child counts as false,
while a failure of the telemetry store ends the whole evaluation. -/
namespace DeviceRules

/-- What the telemetry store answers at some instant. -/
structure Telemetry where
  /-- The newest samples of a device and data type since an instant, newest first, at most so many. -/
  samples : DeviceId → String → Instant → Nat → Except Outage (List Sample)
  status : DeviceId → Except Outage (Option String)

structure Moment where
  now : Instant
  localTime : LocalTime
  lastFired : Option Instant

/-- What a computation came to, with the events on the way. -/
structure Traced (α : Type) where
  value : α
  events : List Event

namespace TimeCondition

/-- Whether the time of day `now` lies on the way from `start` to `stop` around the clock, both included. -/
def within (start stop now : Nat × Nat) : Bool :=
  let minutes (t : Nat × Nat) := t.1 * 60 + t.2
  if minutes start ≤ minutes stop then minutes start ≤ minutes now && minutes now ≤ minutes stop
  else minutes start ≤ minutes now || minutes now ≤ minutes stop

def readTime (text : String) : Except ConfigurationError (Nat × Nat) :=
  match timeOfDay? text with
  | some time => .ok time
  | none => .error (.badTimeOfDay text)

/-- Whether the predicate holds; an interval that has never been triggered has passed. -/
def holds (c : TimeCondition) (moment : Moment) : Except ConfigurationError Bool :=
  match c with
  | timeOfDay start stop => do
      let start ← readTime start
      let stop ← readTime stop
      return within start stop (moment.localTime.hour, moment.localTime.minute)
  | dayOfWeek days => .ok (days.any fun day => day.toNat == moment.localTime.weekday)
  | interval minutes lastTrigger =>
      match lastTrigger <|> moment.lastFired with
      | none => .ok true
      | some last => .ok ((minutes.toNat * 60 * nanosPerSecond : Nat) ≤ moment.now.since last)

end TimeCondition

namespace Condition

def judgeSamples (telemetry : Telemetry) (device : DeviceId) (dataType : String) (since : Instant) (limit : Nat)
    (judge : List Sample → Bool) : Traced (Except Fault Bool) :=
  let events := [Event.asked (.samples device dataType since limit)]
  match telemetry.samples device dataType since limit with
  | .ok samples => ⟨.ok (judge samples), events⟩
  | .error outage => ⟨.error (.outage outage), events⟩

def judgeThreshold (c : ThresholdCondition) : List Sample → Bool
  | latest :: _ => c.comparison.holds latest.value c.threshold
  | [] => false

/-- Two samples are needed for a change. -/
def judgeChange (c : ChangeCondition) : List Sample → Bool
  | [latest, previous] => c.direction.holds (latest.value - previous.value) c.least
  | _ => false

def judgeStatus (telemetry : Telemetry) (device : DeviceId) (expected : String) : Traced (Except Fault Bool) :=
  let events := [Event.asked (.status device)]
  match telemetry.status device with
  | .ok known => ⟨.ok (known == some expected), events⟩
  | .error outage => ⟨.error (.outage outage), events⟩

def misconfigured (error : ConfigurationError) : Traced (Except Fault Bool) := ⟨.error (.configuration error), []⟩

/-- A misconfigured child of this kind counts as false. -/
def forgive (kind : String) (child : Traced (Except Fault Bool)) : Traced (Except Fault Bool) :=
  match child.value with
  | .error (.configuration error) => ⟨.ok false, child.events ++ [.childMisconfigured kind error]⟩
  | _ => child

mutual

def evaluate (telemetry : Telemetry) (moment : Moment) (device : Option DeviceId) :
    Condition → Traced (Except Fault Bool)
  | threshold c =>
      match device with
      | some d => judgeSamples telemetry d c.dataType (moment.now.windowStart c.windowMinutes) 1 (judgeThreshold c)
      | none => misconfigured (.missingDevice "value_threshold")
  | change c =>
      match device with
      | some d => judgeSamples telemetry d c.dataType (moment.now.windowStart c.windowMinutes) 2 (judgeChange c)
      | none => misconfigured (.missingDevice "value_change")
  | time c =>
      match c.holds moment with
      | .ok b => ⟨.ok b, []⟩
      | .error error => misconfigured error
  | status expected =>
      match device with
      | some d => judgeStatus telemetry d expected
      | none => misconfigured (.missingDevice "device_status")
  | composite connective children => settle telemetry moment connective children
  | unsupported kind defect => misconfigured (.unsupportedCondition kind defect)

/-- The value of a connective over children that are still to be evaluated. -/
def settle (telemetry : Telemetry) (moment : Moment) (connective : Connective) :
    List (Addressed Condition) → Traced (Except Fault Bool)
  | [] => ⟨.ok connective.neutral, []⟩
  | ⟨device, node⟩ :: rest =>
      let child := forgive node.kind (node.evaluate telemetry moment (device.bind DeviceId.target?))
      match child.value with
      | .ok holds =>
          if connective.decides holds then child
          else
            let others := settle telemetry moment connective rest
            ⟨others.value, child.events ++ others.events⟩
      | .error _ => child

end

end Condition

end DeviceRules
