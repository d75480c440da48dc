import DeviceRules.Decimal.Dyadic

/-! Lengths of time. A duration is a number of nanoseconds whose seconds fit 64 bits. The distance of two
instants has a shorter range, so a duration is clamped before it is compared with one. -/
namespace DeviceRules

abbrev nanosPerSecond : Nat := 1000000000

structure Duration where
  nanos : Nat
  bounded : nanos < UInt64.size * nanosPerSecond
  deriving DecidableEq

namespace Duration

instance : Repr Duration := ⟨fun d _ => repr d.nanos⟩

def zero : Duration := ⟨0, by decide⟩

instance : Inhabited Duration := ⟨zero⟩

def max : Duration := ⟨UInt64.size * nanosPerSecond - 1, by decide⟩

/-- `nanos` nanoseconds, or the longest duration when there are more than it has. -/
def ofNanos (nanos : Nat) : Duration :=
  if bounded : nanos < UInt64.size * nanosPerSecond then ⟨nanos, bounded⟩ else max

def ofWholeSeconds (seconds : UInt64) : Duration :=
  ⟨seconds.toNat * nanosPerSecond, Nat.mul_lt_mul_of_pos_right seconds.toNat_lt (by decide)⟩

def seconds (d : Duration) : Nat := d.nanos / nanosPerSecond

def subsecond (d : Duration) : Nat := d.nanos % nanosPerSecond

/-- A number of seconds rounded to the nearest nanosecond, a half to the even one. What is not above zero, NaN
included, counts as zero, and what is too long as the longest duration. -/
def ofSeconds (x : Float) : Duration :=
  if x > 0 then
    if x.isFinite then
      let (numerator, denominator) := (Decimal.Dyadic.ofFloat x).ratio
      ofNanos (Decimal.roundHalfEven (numerator * nanosPerSecond) denominator)
    else max
  else zero

/-- The greatest distance of two instants in nanoseconds: as many milliseconds as fit 63 bits. -/
def maxDistance : Nat := 0x7fffffffffffffff * 1000000

/-- The duration as a distance, if it is not too long for one. -/
def distance? (d : Duration) : Option Nat := if d.nanos ≤ maxDistance then some d.nanos else none

end Duration

end DeviceRules
