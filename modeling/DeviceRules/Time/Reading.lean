import DeviceRules.Text.Basic
import DeviceRules.Time.Instant

/-! Reading instants and times of day. Three forms of date and time are accepted: RFC 3339, which has an offset;
the same with `T` and blanks between the parts, without an offset; and the form with a space that databases
write. A text without an offset is taken as UTC. -/
namespace DeviceRules.Reading

open Text (dropBlanks isBlank trim)

/-- Date and time as written, before any check against the calendar. -/
structure Stamp where
  year : Int
  month : Nat
  day : Nat
  hour : Nat
  minute : Nat
  second : Nat
  nano : Nat
  deriving Repr

/-- The instant of a stamp whose clock runs `offset` seconds ahead of UTC. Second 60 is the leap second of the
minute. -/
def Stamp.instant? (s : Stamp) (offset : Int) : Option Instant :=
  let date : Date := ⟨s.year, s.month, s.day⟩
  if date.isValid && s.hour < 24 && s.minute < 60 && s.second ≤ 60 then
    let (second, nano) := if s.second = 60 then (59, s.nano + nanosPerSecond) else (s.second, s.nano)
    let shown := date.toDays * secondsPerDay + (s.hour * 3600 + s.minute * 60 + second : Nat)
    (Instant.of? shown nano).bind fun _ => Instant.of? (shown - offset) nano
  else none

def value (digits : List Char) : Nat := digits.foldl (fun n c => 10 * n + (c.toNat - '0'.toNat)) 0

def digits? (most : Nat) (cs : List Char) : Option (Nat × List Char) :=
  let found := (cs.take most).takeWhile Char.isDigit
  if found.isEmpty then none else some (value found, cs.drop found.length)

def exactly? (count : Nat) (cs : List Char) : Option (Nat × List Char) :=
  let found := (cs.take count).takeWhile Char.isDigit
  if found.length = count then some (value found, cs.drop count) else none

def literal? (c : Char) : List Char → Option (List Char)
  | d :: rest => if d = c then some rest else none
  | [] => none

/-- The fraction of a second after a point, if there is one. Digits after the ninth are read and dropped. -/
def fraction? : List Char → Option (Nat × List Char)
  | '.' :: rest =>
      let found := rest.takeWhile Char.isDigit
      if found.isEmpty then none
      else
        let kept := found.take 9
        some (value kept * Nat.pow 10 (9 - kept.length), rest.drop found.length)
  | rest => some (0, rest)

/-- `Z`, or a sign with two digits of hours and two of minutes, as seconds ahead of UTC. `between` reads what
stands between hours and minutes. An offset is shorter than a day. -/
def offset? (between : List Char → Option (List Char)) : List Char → Option (Int × List Char)
  | [] => none
  | c :: rest =>
      if c = 'Z' ∨ c = 'z' then some (0, rest)
      else do
        let sign : Int ← if c = '+' then some 1 else if c = '-' ∨ c = '\u2212' then some (-1) else none
        let (hours, rest) ← exactly? 2 rest
        let rest ← between rest
        let (minutes, rest) ← exactly? 2 rest
        if hours < 24 ∧ minutes < 60 then some (sign * (hours * 3600 + minutes * 60), rest) else none

/-- RFC 3339 to the letter: fixed numbers of digits, and `T`, `t` or a space before the time. -/
def strict? (cs : List Char) : Option Instant := do
  let (year, cs) ← exactly? 4 cs
  let (month, cs) ← exactly? 2 (← literal? '-' cs)
  let (day, cs) ← exactly? 2 (← literal? '-' cs)
  let c :: cs := cs | none
  if c = 'T' ∨ c = 't' ∨ c = ' ' then
    let (hour, cs) ← exactly? 2 cs
    let (minute, cs) ← exactly? 2 (← literal? ':' cs)
    let (second, cs) ← exactly? 2 (← literal? ':' cs)
    let (nano, cs) ← fraction? cs
    let (offset, cs) ← offset? (literal? ':') cs
    if cs.isEmpty then Stamp.instant? ⟨year, month, day, hour, minute, second, nano⟩ offset else none
  else none

/-- A year: up to four digits, or a sign and any number of them. Blanks may stand before it. -/
def year? (cs : List Char) : Option (Int × List Char) :=
  match dropBlanks cs with
  | '-' :: rest => (digits? rest.length rest).map fun (n, rest) => (-(n : Int), rest)
  | '+' :: rest => (digits? rest.length rest).map fun (n, rest) => ((n : Int), rest)
  | rest => (digits? 4 rest).map fun (n, rest) => ((n : Int), rest)

/-- One or two digits. Blanks may stand before them. -/
def pair? (cs : List Char) : Option (Nat × List Char) := digits? 2 (dropBlanks cs)

/-- Year, month and day; `gap` reads what may stand before a hyphen. -/
def date? (gap : List Char → List Char) (cs : List Char) : Option ((Int × Nat × Nat) × List Char) := do
  let (year, cs) ← year? cs
  let (month, cs) ← pair? (← literal? '-' (gap cs))
  let (day, cs) ← pair? (← literal? '-' (gap cs))
  some ((year, month, day), cs)

/-- Hour, minute, second and fraction; `gap` reads what may stand before a colon. -/
def time? (gap : List Char → List Char) (cs : List Char) : Option ((Nat × Nat × Nat × Nat) × List Char) := do
  let (hour, cs) ← pair? cs
  let (minute, cs) ← pair? (← literal? ':' (gap cs))
  let (second, cs) ← pair? (← literal? ':' (gap cs))
  let (nano, cs) ← fraction? cs
  some ((hour, minute, second, nano), cs)

def stamp (date : Int × Nat × Nat) (time : Nat × Nat × Nat × Nat) : Stamp :=
  ⟨date.1, date.2.1, date.2.2, time.1, time.2.1, time.2.2.1, time.2.2.2⟩

/-- Date, `T` and time without an offset, with blanks between the parts. -/
def separated? (cs : List Char) : Option Instant := do
  let (date, cs) ← date? dropBlanks cs
  let (time, cs) ← time? dropBlanks (← literal? 'T' (dropBlanks cs))
  if (dropBlanks cs).isEmpty then (stamp date time).instant? 0 else none

/-- Date and time without an offset and without `T`. -/
def spaced? (cs : List Char) : Option Instant := do
  let (date, cs) ← date? id cs
  let (time, cs) ← time? id cs
  if cs.isEmpty then (stamp date time).instant? 0 else none

/-- RFC 3339 with blanks between the parts, any number of digits up to the usual, and `UTC` for `Z`. -/
def relaxed? (cs : List Char) : Option Instant := do
  let (date, cs) ← date? dropBlanks cs
  let c :: cs := cs | none
  if c = 'T' ∨ c = 't' ∨ c = ' ' then
    let (time, cs) ← time? dropBlanks cs
    let cs := dropBlanks cs
    let (offset, cs) ←
      if (cs.take 3).map Char.toUpper = ['U', 'T', 'C'] then some ((0 : Int), cs.drop 3)
      else offset? (fun cs => some (cs.dropWhile fun c => c == ':' || isBlank c)) cs
    if (dropBlanks cs).isEmpty then (stamp date time).instant? offset else none
  else none

end Reading

/-- The instant written in `s`, with blanks around it, in any of the three forms. -/
def Instant.ofText? (s : String) : Option Instant :=
  let cs := Text.trim s.toList
  Reading.strict? cs <|> Reading.separated? cs <|> Reading.spaced? cs

/-- The instant written in a field of a record, where an offset is required. -/
def Instant.ofField? (s : String) : Option Instant := Reading.relaxed? s.toList

/-- A time of day in hours and minutes, as `HH:MM` with blanks around it. -/
def timeOfDay? (s : String) : Option (Nat × Nat) := do
  let (hour, cs) ← Reading.pair? (Text.trim s.toList)
  let (minute, cs) ← Reading.pair? (← Reading.literal? ':' cs)
  if cs.isEmpty && hour < 24 && minute < 60 then some (hour, minute) else none

end DeviceRules
