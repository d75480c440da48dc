import DeviceRules.Condition.Encode
import DeviceRules.Field
import DeviceRules.Time.Format

/-! Samples: what devices have measured, and when; and the stable sort with which stores put their rows in order. -/
namespace DeviceRules

structure Sample where
  device : DeviceId
  /-- What was measured, such as `temperature`. -/
  dataType : String
  value : Float
  unit : Option String
  timestamp : Instant
  deriving BEq

namespace Sample

def toJson (s : Sample) : Json :=
  .object [("device_id", .text s.device.name), ("data_type", .text s.dataType), ("value", .real s.value),
    ("unit", Json.optionalText s.unit), ("timestamp", .text s.timestamp.text)]

/-- A sample given as an object, or as an array of its fields. -/
def ofJson : Reader Sample := fun json => do
  let names := ["device_id", "data_type", "value", "unit", "timestamp"]
  let fields ← Fields.ofRecord names json
  let dataType ← fields.read? "data_type" .text
  let device ← fields.read? "device_id" .device
  let timestamp ← fields.read? "timestamp" .instantField
  let unit ← fields.readOr "unit" (.optional .text) none
  let value ← fields.read? "value" .double
  return {
    device := ← Fields.required "device_id" device
    dataType := ← Fields.required "data_type" dataType
    value := ← Fields.required "value" value
    unit
    timestamp := ← Fields.required "timestamp" timestamp }

end Sample

/-- Puts `a` in front of the first item that it may precede. -/
def insertBy {α : Type} (precedes : α → α → Bool) (a : α) : List α → List α
  | [] => [a]
  | b :: rest => if precedes a b then a :: b :: rest else b :: insertBy precedes a rest

/-- The items in an order in which each may precede the next; of two that may precede each other, the first stays
first. -/
def sortBy {α : Type} (precedes : α → α → Bool) (items : List α) : List α := items.foldr (insertBy precedes) []

end DeviceRules
