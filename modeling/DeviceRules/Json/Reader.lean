import DeviceRules.Json.Basic

/-! Reading JSON text. The text is one value with white space around it; objects come out sorted by key, a key
that is written twice has its last value, and a text that opens too many arrays and objects inside each other
is refused. A refusal says what is wrong with the text, and at which of its bytes that showed. -/
namespace DeviceRules.Json

/-- How many arrays and objects may be open at once. -/
def depthLimit : Nat := 127

inductive Breach
  | unfinishedValue
  | unfinishedText
  | unfinishedArray
  | unfinishedObject
  | noValue
  | noWord
  | noColon
  | noArrayEnd
  | noObjectEnd
  | keyNotText
  | extraComma
  | extraText
  | badNumber
  | tooLarge
  | badEscape
  | loneSurrogate
  | halfSurrogate
  | controlCharacter
  | tooDeep
  deriving DecidableEq, Repr

def Breach.phrase : Breach → String
  | unfinishedValue => "EOF while parsing a value"
  | unfinishedText => "EOF while parsing a string"
  | unfinishedArray => "EOF while parsing a list"
  | unfinishedObject => "EOF while parsing an object"
  | noValue => "expected value"
  | noWord => "expected ident"
  | noColon => "expected `:`"
  | noArrayEnd => "expected `,` or `]`"
  | noObjectEnd => "expected `,` or `\x7d`"
  | keyNotText => "key must be a string"
  | extraComma => "trailing comma"
  | extraText => "trailing characters"
  | badNumber => "invalid number"
  | tooLarge => "number out of range"
  | badEscape => "invalid escape"
  | loneSurrogate => "lone leading surrogate in hex escape"
  | halfSurrogate => "unexpected end of hex escape"
  | controlCharacter => "control character (\\u0000-\\u001F) found while parsing a string"
  | tooDeep => "recursion limit exceeded"

/-- Where a reader stops: `rest` is the text that it leaves, of which it has looked at the first `ahead` bytes. -/
structure Flaw where
  breach : Breach
  rest : List Char
  ahead : Nat

/-- The lines count from 1, and the column is the number of bytes in the line up to the last one looked at. -/
structure Diagnosis where
  breach : Breach
  line : Nat
  column : Nat
  deriving BEq, Repr

def Diagnosis.message (d : Diagnosis) : String :=
  d.breach.phrase ++ " at line " ++ toString d.line ++ " column " ++ toString d.column

def bytes (cs : List Char) : List UInt8 := cs.flatMap String.utf8EncodeChar

def Flaw.diagnosis (text : List Char) (flaw : Flaw) : Diagnosis :=
  let all := bytes text
  let seen := all.take (all.length - (bytes flaw.rest).length + flaw.ahead)
  ⟨flaw.breach, 1 + seen.count 0x0A, (seen.reverse.takeWhile (· ≠ 0x0A)).length⟩

/-- Refuses a text because of the character that comes next, or because none does. -/
def refuse {α : Type} (breach : Breach) (rest : List Char) : Except Flaw α := .error ⟨breach, rest, 1⟩

def skipSpace : List Char → List Char :=
  List.dropWhile fun c => c == ' ' || c == '\n' || c == '\r' || c == '\t'

/-- The text after a word, which has to come next. -/
def after : List Char → List Char → Except Flaw (List Char)
  | [], rest => .ok rest
  | _ :: _, [] => refuse .unfinishedValue []
  | c :: word, d :: rest => if c = d then after word rest else refuse .noWord (d :: rest)

def digit? (c : Char) : Option Nat := if c.isDigit then some (c.toNat - '0'.toNat) else none

/-- A decimal `significand · 10 ^ exponent` whose significand fits 64 bits. -/
structure Scaled where
  significand : Nat
  exponent : Int
  deriving Repr

/-- A further digit fits when the significand stays within 64 bits. -/
def Scaled.fits (s : Scaled) (d : Nat) : Bool := s.significand * 10 + d < UInt64.size

/-- The digits before the point. From the first that does not fit, each only raises the exponent. -/
def wholeDigits (s : Scaled) (full : Bool) : List Char → Scaled × Bool × List Char
  | [] => (s, full, [])
  | c :: rest =>
      match digit? c with
      | none => (s, full, c :: rest)
      | some d =>
          if full || !s.fits d then wholeDigits ⟨s.significand, s.exponent + 1⟩ true rest
          else wholeDigits ⟨s.significand * 10 + d, s.exponent⟩ false rest

/-- The digits after the point. From the first that does not fit, all are dropped. -/
def fractionDigits (s : Scaled) (full : Bool) : List Char → Scaled × List Char
  | [] => (s, [])
  | c :: rest =>
      match digit? c with
      | none => (s, c :: rest)
      | some d =>
          if full || !s.fits d then fractionDigits s true rest
          else fractionDigits ⟨s.significand * 10 + d, s.exponent - 1⟩ false rest

def natural (cs : List Char) : Nat × List Char :=
  (cs.takeWhile Char.isDigit |>.foldl (fun n c => 10 * n + (c.toNat - '0'.toNat)) 0,
    cs.dropWhile Char.isDigit)

def startsDigit : List Char → Bool
  | c :: _ => c.isDigit
  | [] => false

/-- A digit has to come next. -/
def needDigit : List Char → Except Flaw Unit
  | [] => refuse .unfinishedValue []
  | c :: rest => if c.isDigit then .ok () else refuse .badNumber (c :: rest)

def readExponent (cs : List Char) : Except Flaw (Int × List Char) :=
  let (sign, digits) : Int × List Char :=
    match cs with
    | '+' :: rest => (1, rest)
    | '-' :: rest => (-1, rest)
    | rest => (1, rest)
  do
    needDigit digits
    let (e, rest) := natural digits
    return (sign * e, rest)

/-- The text after the first digit with which a number leaves 31 bits. -/
def overrun? (n : Nat) : List Char → Option (List Char)
  | [] => none
  | c :: rest =>
      match digit? c with
      | none => none
      | some d => if 10 * n + d < 0x80000000 then overrun? (10 * n + d) rest else some rest

/-- Where an exponent is seen to be too large: behind its last digit, unless it leaves 31 bits before. -/
def exponentEnd (cs rest : List Char) : List Char :=
  match cs with
  | '+' :: digits => (overrun? 0 digits).getD rest
  | digits => (overrun? 0 digits).getD rest

/-- The power of ten nearest to `10 ^ e`, for `e ≤ 308`. -/
def powerOfTen (e : Nat) : Float := Float.ofScientific 1 false e

/-- The double of a decimal: the significand is rounded once and its product with, or quotient by, a power of
ten once more. An exponent below -308 is reached in two quotients; a decimal beyond the doubles has none. -/
def Scaled.toFloat? (s : Scaled) : Option Float :=
  let x := Float.ofNat s.significand
  if s.significand = 0 then some x
  else if 308 < s.exponent then none
  else if 0 ≤ s.exponent then finite? (x * powerOfTen s.exponent.toNat)
  else
    let e := (-s.exponent).toNat
    if e ≤ 308 then some (x / powerOfTen e)
    else if e ≤ 616 then some (x / powerOfTen 308 / powerOfTen (e - 308))
    else some 0

/-- The double of a decimal, which is refused at `stop` when there is none. -/
def Scaled.toFloat (s : Scaled) (stop : List Char) : Except Flaw Float :=
  match s.toFloat? with
  | some x => .ok x
  | none => .error ⟨.tooLarge, stop, 0⟩

/-- The digits before the point. A zero stands there alone. -/
def readWhole : List Char → Except Flaw (Scaled × Bool × List Char)
  | '0' :: rest => if startsDigit rest then refuse .badNumber rest else .ok (⟨0, 0⟩, false, rest)
  | cs => do
      needDigit cs
      return wholeDigits ⟨0, 0⟩ false cs

/-- The double of a decimal once the exponent after it, if there is one, is added to its own. -/
def readDouble (s : Scaled) : List Char → Except Flaw (Float × List Char)
  | 'e' :: cs | 'E' :: cs => do
      let (e, rest) ← readExponent cs
      return (← (Scaled.mk s.significand (s.exponent + e)).toFloat (exponentEnd cs rest), rest)
  | rest => return (← s.toFloat rest, rest)

/-- A number after its sign. It is whole when it has neither point nor exponent and fits 64 bits, signed or not; `-0`
is the negative zero. -/
def readUnsigned (negative : Bool) (cs : List Char) : Except Flaw (Json × List Char) := do
  let (s, full, rest) ← readWhole cs
  let signed (x : Float) : Json := real (if negative then -x else x)
  let scaled (s : Scaled) (rest : List Char) : Except Flaw (Json × List Char) :=
    (readDouble s rest).map fun (x, rest) => (signed x, rest)
  match rest with
  | '.' :: rest => do
      needDigit rest
      let (s, rest) := fractionDigits s false rest
      scaled s rest
  | 'e' :: _ | 'E' :: _ => scaled s rest
  | _ =>
      if full then scaled s rest
      else if !negative then return (whole s.significand, rest)
      else if 0 < s.significand && s.significand ≤ 0x8000000000000000 then return (whole (-s.significand), rest)
      else return (signed (Float.ofNat s.significand), rest)

def readNumber : List Char → Except Flaw (Json × List Char)
  | [] => refuse .unfinishedValue []
  | '-' :: rest => readUnsigned true rest
  | c :: rest => if c.isDigit then readUnsigned false (c :: rest) else refuse .noValue (c :: rest)

def hex? (c : Char) : Option Nat :=
  if c.isDigit then some (c.toNat - '0'.toNat)
  else if 'a' ≤ c && c ≤ 'f' then some (c.toNat - 'a'.toNat + 10)
  else if 'A' ≤ c && c ≤ 'F' then some (c.toNat - 'A'.toNat + 10)
  else none

def fourHex? (a b c d : Char) : Option Nat := do
  return (((← hex? a) * 16 + (← hex? b)) * 16 + (← hex? c)) * 16 + (← hex? d)

/-- A number of four digits in base sixteen. Its four bytes are taken at once, whatever they are. -/
def readUnit : List Char → Except Flaw (Nat × List Char)
  | a :: b :: c :: d :: rest =>
      match fourHex? a b c d with
      | some n => .ok (n, rest)
      | none => .error ⟨.badEscape, a :: b :: c :: d :: rest, 4⟩
  | cs => if (bytes cs).length < 4 then refuse .unfinishedText [] else .error ⟨.badEscape, cs, 4⟩

/-- The second of two units, which has to come next as an escape of its own. -/
def readLowUnit : List Char → Except Flaw (Nat × List Char)
  | [] | ['\\'] => refuse .unfinishedText []
  | '\\' :: 'u' :: rest => readUnit rest
  | '\\' :: rest => refuse .halfSurrogate rest
  | rest => refuse .halfSurrogate rest

/-- The character after `\u`. Units of the two surrogate ranges stand only in pairs. -/
def readEscape (cs : List Char) : Except Flaw (Char × List Char) := do
  let (high, rest) ← readUnit cs
  if high < 0xD800 || 0xDFFF < high then return (Char.ofNat high, rest)
  else if 0xDBFF < high then .error ⟨.loneSurrogate, rest, 0⟩
  else
    let (low, rest) ← readLowUnit rest
    if low < 0xDC00 || 0xDFFF < low then .error ⟨.loneSurrogate, rest, 0⟩
    else return (Char.ofNat (0x10000 + (high - 0xD800) * 0x400 + (low - 0xDC00)), rest)

/-- The characters up to the closing quote. `fuel` is a bound on their number. -/
def readQuoted (done : List Char) : Nat → List Char → Except Flaw (String × List Char)
  | 0, _ => refuse .unfinishedText []
  | _, [] => refuse .unfinishedText []
  | fuel + 1, c :: rest =>
      if c = '"' then .ok (String.ofList done.reverse, rest)
      else if c = '\\' then
        match rest with
        | [] => refuse .unfinishedText []
        | '"' :: rest => readQuoted ('"' :: done) fuel rest
        | '\\' :: rest => readQuoted ('\\' :: done) fuel rest
        | '/' :: rest => readQuoted ('/' :: done) fuel rest
        | 'b' :: rest => readQuoted ('\x08' :: done) fuel rest
        | 'f' :: rest => readQuoted ('\x0c' :: done) fuel rest
        | 'n' :: rest => readQuoted ('\n' :: done) fuel rest
        | 'r' :: rest => readQuoted ('\r' :: done) fuel rest
        | 't' :: rest => readQuoted ('\t' :: done) fuel rest
        | 'u' :: rest =>
            match readEscape rest with
            | .ok (c, rest) => readQuoted (c :: done) fuel rest
            | .error flaw => .error flaw
        | rest => refuse .badEscape rest
      else if c.toNat < 0x20 then refuse .controlCharacter (c :: rest)
      else readQuoted (c :: done) fuel rest

/-- A key and the colon after it. -/
def readKey (cs : List Char) : Except Flaw (String × List Char) :=
  match skipSpace cs with
  | '"' :: rest => do
      let (key, rest) ← readQuoted [] (rest.length + 1) rest
      match skipSpace rest with
      | [] => refuse .unfinishedObject []
      | ':' :: rest => return (key, rest)
      | rest => refuse .noColon rest
  | rest => refuse .keyNotText rest

mutual

/-- A value and the text after it, with `limit` arrays and objects still to be opened. `fuel` is a bound on the
number of characters. -/
def readValue (limit : Nat) : Nat → List Char → Except Flaw (Json × List Char)
  | 0, _ => refuse .unfinishedValue []
  | fuel + 1, cs =>
      match skipSpace cs with
      | 'n' :: rest => (after ['u', 'l', 'l'] rest).map fun rest => (null, rest)
      | 't' :: rest => (after ['r', 'u', 'e'] rest).map fun rest => (bool true, rest)
      | 'f' :: rest => (after ['a', 'l', 's', 'e'] rest).map fun rest => (bool false, rest)
      | '"' :: rest => (readQuoted [] (rest.length + 1) rest).map fun (s, rest) => (text s, rest)
      | '[' :: rest =>
          if limit = 0 then refuse .tooDeep ('[' :: rest)
          else
            match skipSpace rest with
            | [] => refuse .unfinishedArray []
            | ']' :: rest => .ok (array [], rest)
            | rest => (readItems (limit - 1) fuel rest).map fun (items, rest) => (array items, rest)
      | '{' :: rest =>
          if limit = 0 then refuse .tooDeep ('{' :: rest)
          else
            match skipSpace rest with
            | [] => refuse .unfinishedObject []
            | '}' :: rest => .ok (object [], rest)
            | rest => (readEntries (limit - 1) fuel rest).map fun (entries, rest) =>
                (object (Fields.sorted entries), rest)
      | rest => readNumber rest

/-- The items up to the closing bracket; there is at least one. -/
def readItems (limit : Nat) : Nat → List Char → Except Flaw (List Json × List Char)
  | 0, _ => refuse .unfinishedArray []
  | fuel + 1, cs => do
      let (item, rest) ← readValue limit fuel cs
      match skipSpace rest with
      | [] => refuse .unfinishedArray []
      | ']' :: rest => return ([item], rest)
      | ',' :: rest =>
          match skipSpace rest with
          | ']' :: rest => refuse .extraComma (']' :: rest)
          | rest => do
              let (items, rest) ← readItems limit fuel rest
              return (item :: items, rest)
      | rest => refuse .noArrayEnd rest

/-- The entries up to the closing brace; there is at least one. -/
def readEntries (limit : Nat) : Nat → List Char → Except Flaw (Fields × List Char)
  | 0, _ => refuse .unfinishedObject []
  | fuel + 1, cs => do
      let (key, rest) ← readKey cs
      let (value, rest) ← readValue limit fuel rest
      match skipSpace rest with
      | [] => refuse .unfinishedObject []
      | '}' :: rest => return ([(key, value)], rest)
      | ',' :: rest =>
          match skipSpace rest with
          | [] => refuse .unfinishedValue []
          | '}' :: rest => refuse .extraComma ('}' :: rest)
          | rest => do
              let (entries, rest) ← readEntries limit fuel rest
              return ((key, value) :: entries, rest)
      | rest => refuse .noObjectEnd rest

end

/-- A text that is one value. -/
def readDocument (cs : List Char) : Except Flaw Json := do
  let (json, rest) ← readValue depthLimit (2 * cs.length + 2) cs
  match skipSpace rest with
  | [] => return json
  | rest => refuse .extraText rest

def read (s : String) : Except Diagnosis Json :=
  (readDocument s.toList).mapError fun flaw => flaw.diagnosis s.toList

def ofText? (s : String) : Option Json := (read s).toOption

end DeviceRules.Json
