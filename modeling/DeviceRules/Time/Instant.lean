import DeviceRules.Time.Calendar
import DeviceRules.Time.Duration

/-! Instants in UTC, to the nanosecond, in the years -262143 to 262142. A leap second belongs to the second
before it: its instants have a thousand million nanoseconds or more. -/
namespace DeviceRules

abbrev secondsPerDay : Int := 86400

structure Instant where
  /-- Seconds since 1970-01-01T00:00:00Z, leap seconds left out. -/
  second : Int
  nano : Nat
  inRange : -8334601228800 ≤ second ∧ second ≤ 8210266876799
  nano_lt : nano < 2 * nanosPerSecond
  leap : nanosPerSecond ≤ nano → second % 60 = 59
  deriving DecidableEq

namespace Instant

def of? (second : Int) (nano : Nat) : Option Instant :=
  if h : (-8334601228800 ≤ second ∧ second ≤ 8210266876799) ∧ nano < 2 * nanosPerSecond ∧
      (nanosPerSecond ≤ nano → second % 60 = 59) then
    some ⟨second, nano, h.1, h.2.1, h.2.2⟩
  else none

def epoch : Instant := ⟨0, 0, by decide, by decide, by decide⟩

instance : Inhabited Instant := ⟨epoch⟩

def earliest : Instant := ⟨-8334601228800, 0, by decide, by decide, by decide⟩

def isLeap (t : Instant) : Bool := nanosPerSecond ≤ t.nano

/-- Earlier first; a leap second lies between the second that it belongs to and the next. -/
instance : Ord Instant := ⟨fun a b => (compare a.second b.second).then (compare a.nano b.nano)⟩

instance : LE Instant := ⟨fun a b => a.second < b.second ∨ (a.second = b.second ∧ a.nano ≤ b.nano)⟩

instance (a b : Instant) : Decidable (a ≤ b) := inferInstanceAs (Decidable (_ ∨ _))

/-- Nanoseconds since the epoch, a leap second counted as part of the second before it. -/
def nanos (t : Instant) : Int := t.second * nanosPerSecond + t.nano

/-- Nanoseconds from `b` to `a`. A leap second that lies between their times of day is counted in. -/
def since (a b : Instant) : Int :=
  let passed : Int :=
    if b.second % secondsPerDay < a.second % secondsPerDay then (if b.isLeap then 1 else 0)
    else if a.second % secondsPerDay < b.second % secondsPerDay then (if a.isLeap then -1 else 0)
    else 0
  a.nanos - b.nanos + passed * nanosPerSecond

def ofNanos? (n : Int) : Option Instant :=
  of? (n / nanosPerSecond) (n % nanosPerSecond).toNat

/-- The instant `nanos` nanoseconds before `t`. Going back a second or more from a leap second starts at the
second after it. -/
def minus? (t : Instant) (nanos : Nat) : Option Instant :=
  if t.isLeap then
    if nanos < nanosPerSecond then of? t.second (t.nano - nanos)
    else ofNanos? ((t.second + 1) * nanosPerSecond + (t.nano - nanosPerSecond) - nanos)
  else ofNanos? (t.nanos - nanos)

/-- The instant `nanos` nanoseconds after `t`. Leaving a leap second starts at the second before it. -/
def plus? (t : Instant) (nanos : Nat) : Option Instant :=
  if t.isLeap then
    if t.nano + nanos < 2 * nanosPerSecond then of? t.second (t.nano + nanos)
    else ofNanos? (t.nanos - nanosPerSecond + nanos)
  else ofNanos? (t.nanos + nanos)

/-- Whole milliseconds since the epoch, towards the past. -/
def millis (t : Instant) : Int := t.second * 1000 + t.nano / 1000000

def ofMillis? (n : Int) : Option Instant := of? (n / 1000) ((n % 1000).toNat * 1000000)

/-- The start of the trailing window of some minutes before `now`. A window that is longer than two instants can
be apart, or reaches back before the earliest, starts at the earliest; a negative one starts at `now`. -/
def windowStart (now : Instant) (minutes : Float) : Instant :=
  match (Duration.ofSeconds (minutes * 60)).distance? with
  | some nanos => (now.minus? nanos).getD earliest
  | none => earliest

end Instant

/-- A reading of a wall clock: seconds since its 1970-01-01T00:00:00. -/
structure LocalTime where
  second : Int
  deriving DecidableEq, Repr

namespace LocalTime

/-- The wall clock that runs `minutes` ahead of UTC. One that runs behind reads a leap second as the second after
it. -/
def ofInstant (t : Instant) (minutes : Int) : LocalTime :=
  ⟨(if minutes < 0 ∧ t.isLeap then t.second + 1 else t.second) + 60 * minutes⟩

def hour (t : LocalTime) : Nat := (t.second % secondsPerDay / 3600).toNat

def minute (t : LocalTime) : Nat := (t.second % 3600 / 60).toNat

/-- The day of the week, with Monday as 0. -/
def weekday (t : LocalTime) : Nat := ((t.second / secondsPerDay + 3) % 7).toNat

end LocalTime

end DeviceRules
