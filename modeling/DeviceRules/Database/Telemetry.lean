import DeviceRules.Evaluation

/-! The tables of samples and devices. A sample keeps the time as whole milliseconds, and the number of its row, which
grows with every insertion, decides between samples of the same time. -/
namespace DeviceRules

structure SampleRow where
  id : Nat
  device : String
  dataType : String
  value : Float
  unit : Option String
  millis : Int

/-- The rows of samples in the order of insertion, and the status of each device. -/
structure TelemetryTables where
  samples : List SampleRow
  statuses : List (String × String)

namespace TelemetryTables

def empty : TelemetryTables := ⟨[], []⟩

/-- Appends a sample. NaN would be stored as NULL, which the column does not take, and a zero loses its sign. -/
def record (tables : TelemetryTables) (s : Sample) : Except Outage TelemetryTables :=
  if s.value.isNaN then .error (.refused "NOT NULL constraint failed: telemetry.value")
  else
    let row := ⟨tables.samples.length + 1, s.device.name, s.dataType, s.value + 0, s.unit, s.timestamp.millis⟩
    .ok { tables with samples := tables.samples ++ [row] }

def setStatus (tables : TelemetryTables) (device : DeviceId) (status : String) : TelemetryTables :=
  { tables with statuses := (device.name, status) :: tables.statuses.filter (·.1 ≠ device.name) }

def status? (tables : TelemetryTables) (device : DeviceId) : Option String := tables.statuses.lookup device.name

/-- The sample of a row, unless its time is out of range. -/
def SampleRow.sample (row : SampleRow) : Except Outage Sample :=
  match Instant.ofMillis? row.millis with
  | some timestamp => .ok ⟨⟨row.device⟩, row.dataType, row.value, row.unit, timestamp⟩
  | none => .error (.refused ("timestamp " ++ toString row.millis ++ " out of range"))

/-- Whether a row is one of a device and data type, taken at `since` or later. -/
def isRecent (device : DeviceId) (dataType : String) (since : Instant) (row : SampleRow) : Bool :=
  row.device == device.name && row.dataType == dataType && decide (since.millis ≤ row.millis)

/-- Descending in the time, and among rows of the same time in their numbers. -/
def SampleRow.precedes (a b : SampleRow) : Bool :=
  decide (b.millis < a.millis) || decide (b.millis = a.millis) && decide (b.id ≤ a.id)

/-- The newest rows first, at most `limit` of them. -/
def recentRows (tables : TelemetryTables) (device : DeviceId) (dataType : String) (since : Instant) (limit : Nat) :
    List SampleRow :=
  (sortBy SampleRow.precedes (tables.samples.filter (isRecent device dataType since))).take limit

def recent (tables : TelemetryTables) (device : DeviceId) (dataType : String) (since : Instant) (limit : Nat) :
    Except Outage (List Sample) :=
  (tables.recentRows device dataType since limit).mapM SampleRow.sample

def telemetry (tables : TelemetryTables) : Telemetry where
  samples := tables.recent
  status device := .ok (tables.status? device)

end TelemetryTables

end DeviceRules
