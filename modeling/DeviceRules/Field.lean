import DeviceRules.Defect
import DeviceRules.Identifier
import DeviceRules.Time.Reading

/-! Reading typed values out of the fields of a document. A record reads its fields in the order of their keys,
so that of two faults the one under the smaller key is reported, and looks for missing ones only after that, in
the order in which the record lists them. Fields that a record does not list are never looked at. -/
namespace DeviceRules

abbrev Reader (α : Type) := Json → Except Defect α

namespace Reader

def any : Reader Json := .ok

def wrong {α : Type} (json : Json) (wanted : Wanted) : Except Defect α := .error (.wrongType json.found wanted)

def text : Reader String
  | .text s => .ok s
  | json => wrong json .text

def bool : Reader Bool
  | .bool b => .ok b
  | json => wrong json .bool

/-- A number of either kind as a finite double. -/
def double : Reader Float := fun json =>
  match json.float? with
  | some x => .ok x
  | none => wrong json .double

/-- A whole number of so many bits without a sign. -/
def unsigned (bits : Nat) : Reader Nat
  | .whole n => if 0 ≤ n ∧ n < 1 <<< bits then .ok n.toNat else .error (.outOfRange n (.unsigned bits))
  | json => wrong json (.unsigned bits)

def byte : Reader UInt8 := fun json => UInt8.ofNat <$> unsigned 8 json

def half : Reader UInt16 := fun json => UInt16.ofNat <$> unsigned 16 json

def word : Reader UInt32 := fun json => UInt32.ofNat <$> unsigned 32 json

def long : Reader UInt64 := fun json => UInt64.ofNat <$> unsigned 64 json

/-- Each item of an array, up to the first that is wrong. -/
def items {α : Type} (read : Reader α) : List Json → Except Defect (List α)
  | [] => .ok []
  | item :: rest => do return (← read item) :: (← items read rest)

def list {α : Type} (read : Reader α) : Reader (List α)
  | .array js => items read js
  | json => wrong json .sequence

def map : Reader Fields
  | .object entries => .ok entries
  | json => wrong json .map

/-- The entries of a map whose values are texts, up to the first that is not. -/
def textEntries : Fields → Except Defect (List (String × String))
  | [] => .ok []
  | (key, value) :: rest => do return (key, ← text value) :: (← textEntries rest)

def textMap : Reader (List (String × String)) := fun json => do textEntries (← map json)

def optional {α : Type} (read : Reader α) : Reader (Option α)
  | .null => .ok none
  | json => some <$> read json

/-- Looks `name` up in `table`; the error lists every name of it. -/
def nameIn {α : Type} (table : List (String × α)) (name : String) : Except Defect α :=
  match table.lookup name with
  | some value => .ok value
  | none => .error (.unknownName name (table.map Prod.fst))

/-- One of the names of `table`, alone or as the one key of an object whose value `isUnit` accepts. -/
def choiceWith {α : Type} (isUnit : Json → Bool) (table : List (String × α)) : Reader α
  | .text name => nameIn table name
  | .object [(name, value)] => do
      let chosen ← nameIn table name
      if isUnit value then .ok chosen else wrong value .unit
  | .object _ => .error .notSingle
  | json => wrong json .choice

def isNull : Json → Bool
  | .null => true
  | _ => false

/-- One of the names of `table`, alone or as the one key of an object whose value is `null`. -/
def choice {α : Type} (table : List (String × α)) : Reader α := choiceWith isNull table

def tag {α : Type} (table : List (String × α)) : Reader α
  | .text name => nameIn table name
  | json => wrong json .tag

/-- An instant in any of its written forms, or nothing for `null`. -/
def instant : Reader (Option Instant) := fun json => do
  match ← optional text json with
  | none => .ok none
  | some s =>
      match Instant.ofText? s with
      | some t => .ok (some t)
      | none => .error (.badInstant s)

def instantField : Reader Instant := fun json => do
  let s ← text json
  match Instant.ofField? s with
  | some t => .ok t
  | none => .error (.badInstant s)

def uuid : Reader Uuid := fun json => do
  let s ← text json
  match Uuid.ofText? s with
  | some u => .ok u
  | none => .error (.badIdentifier s)

def device : Reader DeviceId := fun json => DeviceId.mk <$> text json

end Reader

namespace Fields

def read? {α : Type} (fields : Fields) (key : String) (read : Reader α) : Except Defect (Option α) :=
  match fields.get? key with
  | none => .ok none
  | some json => some <$> read json

def readOr {α : Type} (fields : Fields) (key : String) (read : Reader α) (absent : α) : Except Defect α :=
  return (← fields.read? key read).getD absent

/-- The value of a field with two keys, given in their order. When both are there, the fault lies with the
second, and `name` is what the field is called. -/
def readEither? {α : Type} (fields : Fields) (first second name : String) (read : Reader α) :
    Except Defect (Option α) :=
  match fields.get? first, fields.get? second with
  | none, none => .ok none
  | some json, none | none, some json => some <$> read json
  | some json, some _ => do
      let _ ← read json
      .error (.duplicate name)

def required {α : Type} (key : String) : Option α → Except Defect α
  | some value => .ok value
  | none => .error (.missing key)

/-- The fields of a record given as an object, or as an array of all its values in the order of `names`. -/
def ofRecord (names : List String) : Reader Fields
  | .object entries => .ok entries
  | .array items => if items.length = names.length then .ok (names.zip items) else .error (.wrongLength items.length)
  | json => Reader.wrong json .record

/-- The fields of a record that fills in what is missing, given as an object or as an array of its first values in
the order of `names`. -/
def ofSection (names : List String) : Reader Fields
  | .object entries => .ok entries
  | .array items => .ok (names.zip items)
  | json => Reader.wrong json .record

end Fields

end DeviceRules
