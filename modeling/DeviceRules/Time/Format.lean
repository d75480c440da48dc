import DeviceRules.Time.Instant

/-! Instants as text in the form of RFC 3339. -/
namespace DeviceRules

/-- `n` in decimal with zeros in front up to `width` digits. -/
def padded (width n : Nat) : List Char :=
  let digits := Nat.toDigits 10 n
  List.replicate (width - digits.length) '0' ++ digits

namespace Instant

/-- A year has four digits from 0 to 9999, and a sign and at least four digits outside. -/
def yearText (year : Int) : List Char :=
  if 0 ≤ year ∧ year ≤ 9999 then padded 4 year.toNat
  else (if year < 0 then '-' else '+') :: padded 4 year.natAbs

/-- Date and time to the second, with a leap second as second 60. -/
def secondText (t : Instant) : List Char :=
  let date := Date.ofDays (t.second / secondsPerDay)
  let time := (t.second % secondsPerDay).toNat
  let extra := if t.isLeap then 1 else 0
  yearText date.year ++ '-' :: padded 2 date.month ++ '-' :: padded 2 date.day ++
    'T' :: padded 2 (time / 3600) ++ ':' :: padded 2 (time / 60 % 60) ++ ':' :: padded 2 (time % 60 + extra)

/-- The fraction of the second in three, six or nine digits, the fewest that are exact, or none at all. -/
def fractionText (nano : Nat) : List Char :=
  if nano = 0 then []
  else if nano % 1000000 = 0 then '.' :: padded 3 (nano / 1000000)
  else if nano % 1000 = 0 then '.' :: padded 6 (nano / 1000)
  else '.' :: padded 9 nano

def text (t : Instant) : String :=
  String.ofList (t.secondText ++ fractionText (t.nano % nanosPerSecond) ++ ['Z'])

/-- The text of an instant cut to the microsecond, always with six digits. -/
def microText (t : Instant) : String :=
  String.ofList (t.secondText ++ '.' :: padded 6 (t.nano % nanosPerSecond / 1000) ++ ['Z'])

end Instant

end DeviceRules
