import DeviceRules.Json.Reader

/-! The values of TOML that hold no other values, and keys. -/
namespace DeviceRules.Toml

open Json (hex? startsDigit)

def after? (word : List Char) (cs : List Char) : Option (List Char) :=
  if word.isPrefixOf cs then some (cs.drop word.length) else none

def isSpace (c : Char) : Bool := c == ' ' || c == '\t'

def skipSpace : List Char → List Char := List.dropWhile isSpace

def newline? : List Char → Option (List Char)
  | '\n' :: rest => some rest
  | '\r' :: '\n' :: rest => some rest
  | _ => none

/-- A character that may stand in a comment, and but for quotes and the backslash in a text. -/
def isPlain (c : Char) : Bool := c == '\t' || (' ' ≤ c && c != '\x7f')

def skipComment : List Char → List Char
  | '#' :: rest => rest.dropWhile isPlain
  | rest => rest

def scalar? (count : Nat) (cs : List Char) : Option (Char × List Char) := do
  let digits ← (cs.take count).mapM hex?
  let n := digits.foldl (fun n d => 16 * n + d) 0
  if digits.length = count ∧ n.isValidChar then some (Char.ofNat n, cs.drop count) else none

def escape? : List Char → Option (Char × List Char)
  | 'b' :: rest => some ('\x08', rest)
  | 't' :: rest => some ('\t', rest)
  | 'n' :: rest => some ('\n', rest)
  | 'f' :: rest => some ('\x0c', rest)
  | 'r' :: rest => some ('\r', rest)
  | '"' :: rest => some ('"', rest)
  | '\\' :: rest => some ('\\', rest)
  | 'u' :: rest => scalar? 4 rest
  | 'U' :: rest => scalar? 8 rest
  | _ => none

def basic? (done : List Char) : Nat → List Char → Option (String × List Char)
  | 0, _ => none
  | _, [] => none
  | fuel + 1, c :: rest =>
      if c = '"' then some (String.ofList done.reverse, rest)
      else if c = '\\' then
        match escape? rest with
        | some (e, rest) => basic? (e :: done) fuel rest
        | none => none
      else if isPlain c then basic? (c :: done) fuel rest
      else none

/-- The characters up to the closing single quote, as they stand. -/
def literal? (done : List Char) : List Char → Option (String × List Char)
  | [] => none
  | c :: rest =>
      if c = '\'' then some (String.ofList done.reverse, rest)
      else if isPlain c then literal? (c :: done) rest
      else none

/-- A text over several lines ends with three quotes; up to two more before them belong to it. -/
def closing? (quote : Char) (cs : List Char) : Option (List Char × List Char) :=
  let run := (cs.take 5).takeWhile (· == quote)
  if 3 ≤ run.length then some (run.drop 3, cs.drop run.length) else none

def skipLines : List Char → List Char
  | '\n' :: rest => skipLines rest
  | '\r' :: '\n' :: rest => skipLines rest
  | c :: rest => if isSpace c then skipLines rest else c :: rest
  | [] => []

/-- The rest after a backslash at the end of a line, the line and the blanks of the lines that follow. -/
def lineEnd? (cs : List Char) : Option (List Char) := (newline? (skipSpace cs)).map skipLines

/-- The characters up to the closing quotes of a text over several lines. The end of a line counts as a line
feed. -/
def lines? (quote : Char) (escapes : Bool) (done : List Char) : Nat → List Char → Option (String × List Char)
  | 0, _ => none
  | _, [] => none
  | fuel + 1, c :: rest =>
      match closing? quote (c :: rest) with
      | some (quotes, rest) => some (String.ofList (done.reverse ++ quotes), rest)
      | none =>
          match newline? (c :: rest) with
          | some rest => lines? quote escapes ('\n' :: done) fuel rest
          | none =>
              if escapes && c == '\\' then
                match lineEnd? rest with
                | some rest => lines? quote escapes done fuel rest
                | none =>
                    match escape? rest with
                    | some (e, rest) => lines? quote escapes (e :: done) fuel rest
                    | none => none
              else if isPlain c then lines? quote escapes (c :: done) fuel rest
              else none

/-- A text over several lines, without the line end right after the opening quotes. -/
def block? (quote : Char) (cs : List Char) : Option (String × List Char) :=
  lines? quote (quote == '"') [] (cs.length + 1) ((newline? cs).getD cs)

def text? : List Char → Option (String × List Char)
  | '"' :: '"' :: '"' :: rest => block? '"' rest
  | '\'' :: '\'' :: '\'' :: rest => block? '\'' rest
  | '"' :: rest => basic? [] (rest.length + 1) rest
  | '\'' :: rest => literal? [] rest
  | _ => none

def isBare (c : Char) : Bool := c.isAlphanum || c == '_' || c == '-'

/-- A key without dots, bare or between quotes on one line. -/
def simpleKey? : List Char → Option (String × List Char)
  | '"' :: rest => basic? [] (rest.length + 1) rest
  | '\'' :: rest => literal? [] rest
  | cs =>
      let bare := cs.takeWhile isBare
      if bare.isEmpty then none else some (String.ofList bare, cs.drop bare.length)

/-- A key in front of others, all with dots between. -/
def dottedKey? : Nat → List Char → Option (List String × List Char)
  | 0, _ => none
  | fuel + 1, cs => do
      let (key, rest) ← simpleKey? (skipSpace cs)
      match skipSpace rest with
      | '.' :: rest => do
          let (keys, rest) ← dottedKey? fuel rest
          some (key :: keys, rest)
      | rest => some ([key], rest)

/-- How many arrays and tables may be open inside each other, and how many names a key may have. -/
def depthLimit : Nat := 79

/-- The names before the last one of a key, and that one. Blanks around the key are dropped. -/
def key? (cs : List Char) : Option (List String × String × List Char) := do
  let (keys, rest) ← dottedKey? (cs.length + 1) cs
  let last ← keys.getLast?
  if keys.length ≤ depthLimit then some (keys.dropLast, last, rest) else none

/-- Digits of a base, with single underscores between them. -/
def run? (isDigit : Char → Bool) : List Char → Option (List Char × List Char)
  | [] => none
  | [c] => if isDigit c then some ([c], []) else none
  | c :: d :: rest =>
      if isDigit c then
        if isDigit d || d == '_' then
          (run? isDigit (if d == '_' then rest else d :: rest)).map fun (found, rest) => (c :: found, rest)
        else some ([c], d :: rest)
      else none
  termination_by cs => cs.length
  decreasing_by all_goals (split <;> simp only [List.length_cons] <;> omega)

def valueIn (base : Nat) (digits : List Char) : Nat := digits.foldl (fun n c => base * n + (hex? c).getD 0) 0

def sign (cs : List Char) : Bool × List Char :=
  match cs with
  | '-' :: rest => (true, rest)
  | '+' :: rest => (false, rest)
  | rest => (false, rest)

/-- Decimal digits without a leading zero. -/
def decimal? (cs : List Char) : Option (List Char × List Char) :=
  match cs with
  | '0' :: rest => some (['0'], rest)
  | _ => run? Char.isDigit cs

/-- A whole number that fits 64 bits with a sign. -/
def whole? (cs : List Char) : Option (Json × List Char) :=
  let inRange (n : Int) (rest : List Char) : Option (Json × List Char) :=
    if -0x8000000000000000 ≤ n ∧ n < 0x8000000000000000 then some (.whole n, rest) else none
  match cs with
  | '0' :: 'x' :: rest => (run? (fun c => (hex? c).isSome) rest).bind fun (ds, rest) => inRange (valueIn 16 ds) rest
  | '0' :: 'o' :: rest => (run? (fun c => '0' ≤ c && c ≤ '7') rest).bind fun (ds, rest) => inRange (valueIn 8 ds) rest
  | '0' :: 'b' :: rest => (run? (fun c => c == '0' || c == '1') rest).bind fun (ds, rest) => inRange (valueIn 2 ds) rest
  | _ => do
      let (negative, rest) := sign cs
      let (ds, rest) ← decimal? rest
      inRange (if negative then -(valueIn 10 ds : Int) else valueIn 10 ds) rest

/-- The double nearest to `m · 10 ^ e`, which is infinite when no finite one is near enough. -/
def double (m : Nat) (e : Int) : Float :=
  let size := (Nat.toDigits 10 m).length
  if m = 0 ∨ e + size < -400 then 0
  else if 400 < e + size then 1.0 / 0.0
  else if 0 ≤ e then Float.ofScientific m false e.toNat
  else Float.ofScientific m true e.natAbs

def exponent? : List Char → Option (Int × List Char)
  | c :: rest =>
      if c = 'e' ∨ c = 'E' then
        let (negative, rest) := sign rest
        (run? Char.isDigit rest).map fun (ds, rest) =>
          (if negative then -(valueIn 10 ds : Int) else valueIn 10 ds, rest)
      else none
  | [] => none

/-- A double, which has a fraction or an exponent or is one of the special ones. Digits that stand for more than
any finite double are refused, but with a minus sign they stand for the negative infinity. -/
def real? (cs : List Char) : Option (Json × List Char) := do
  let (negative, rest) := sign cs
  let signed (x : Float) : Json := .real (if negative then -x else x)
  match after? ['i', 'n', 'f'] rest, after? ['n', 'a', 'n'] rest with
  | some rest, _ => some (signed (1.0 / 0.0), rest)
  | _, some rest => some (signed (0.0 / 0.0), rest)
  | none, none => do
      let (ds, rest) ← decimal? rest
      let (fraction, rest) ← match rest with
        | '.' :: rest => run? Char.isDigit rest
        | _ => if (exponent? rest).isSome then some ([], rest) else none
      let (e, rest) := (exponent? rest).getD (0, rest)
      let x := double (valueIn 10 (ds ++ fraction)) (e - fraction.length)
      if x.isInf && !negative then none else some (signed x, rest)

def part? (count least most : Nat) (cs : List Char) : Option (Nat × List Char) :=
  let ds := (cs.take count).takeWhile Char.isDigit
  let n := valueIn 10 ds
  if ds.length = count ∧ least ≤ n ∧ n ≤ most then some (n, cs.drop count) else none

def date? (cs : List Char) : Option (List Char) := do
  let (year, rest) ← part? 4 0 9999 cs
  let (month, rest) ← part? 2 1 12 (← after? ['-'] rest)
  let leap := year % 4 = 0 ∧ (year % 100 ≠ 0 ∨ year % 400 = 0)
  let days := if month = 2 then (if leap then 29 else 28) else if month ∈ [4, 6, 9, 11] then 30 else 31
  let (_, rest) ← part? 2 1 days (← after? ['-'] rest)
  some rest

def time? (cs : List Char) : Option (List Char) := do
  let (_, rest) ← part? 2 0 23 cs
  let (_, rest) ← part? 2 0 59 (← after? [':'] rest)
  let (_, rest) ← part? 2 0 60 (← after? [':'] rest)
  match rest with
  | '.' :: digits => if startsDigit digits then some (digits.dropWhile Char.isDigit) else some rest
  | _ => some rest

def offset? : List Char → Option (List Char)
  | c :: rest =>
      if c = 'Z' ∨ c = 'z' then some rest
      else if c = '+' ∨ c = '-' then do
        let (_, rest) ← part? 2 0 23 rest
        let (_, rest) ← part? 2 0 59 (← after? [':'] rest)
        some rest
      else none
  | [] => none

def dateTime? (cs : List Char) : Option (List Char) :=
  match date? cs with
  | none => time? cs
  | some [] => some []
  | some (c :: rest) =>
      if c = 'T' ∨ c = 't' ∨ c = ' ' then
        match time? rest with
        | some rest => some ((offset? rest).getD rest)
        | none => some (c :: rest)
      else some (c :: rest)

/-- A point in time as an object with one entry. No setting has one, so what it says is not kept. -/
def pointInTime : Json := .object [("date-time", .null)]

/-- A date or time, a double or a whole number, in this order. -/
def numeric? (cs : List Char) : Option (Json × List Char) :=
  match dateTime? cs with
  | some rest => some (pointInTime, rest)
  | none => real? cs <|> whole? cs

end DeviceRules.Toml
