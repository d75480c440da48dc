import DeviceRules.Execution

/-! The table of rules. Conditions and actions are stored as JSON texts, so that a document that cannot be decoded
is loaded as an unsupported node. A row that is no rule at all is left out with a warning. -/
namespace DeviceRules

structure RuleRow where
  id : List UInt8
  name : String
  description : Option String
  triggerDevice : String
  trigger : String
  actionDevice : String
  action : String
  active : Int
  owner : List UInt8
  createdAt : String

namespace RuleRow

def ofRule (rule : Rule) : RuleRow :=
  { id := rule.id.uuid.bytes, name := rule.name, description := rule.description,
    triggerDevice := rule.triggerDevice.name, trigger := rule.trigger.toJson.toText,
    actionDevice := rule.actionDevice.name, action := rule.action.toJson.toText,
    active := if rule.active then 1 else 0, owner := rule.owner.uuid.bytes, createdAt := rule.createdAt.microText }

def key (row : RuleRow) : String :=
  String.ofList (row.id.flatMap fun b => (Uuid.byteText b).map Char.toUpper)

/-- The creation time; one that cannot be read is replaced by the epoch, with a warning. -/
def creation (row : RuleRow) (id : RuleId) : Traced Instant :=
  match Instant.ofText? row.createdAt with
  | some time => ⟨time, []⟩
  | none => ⟨.epoch, [.creationUnreadable id row.createdAt]⟩

/-- The rule of a row, if both identifiers have the right length. -/
def rule? (row : RuleRow) : Traced (Option Rule) :=
  match Uuid.ofBytes? row.id, Uuid.ofBytes? row.owner with
  | some id, some owner =>
      let created := row.creation ⟨id⟩
      let rule := {
        id := ⟨id⟩, name := row.name, description := row.description, triggerDevice := ⟨row.triggerDevice⟩,
        trigger := .ofText row.trigger, actionDevice := ⟨row.actionDevice⟩, action := .ofText row.action,
        active := row.active != 0, owner := ⟨owner⟩, createdAt := created.value }
      ⟨some rule, created.events⟩
  | _, _ => ⟨none, [.rowSkipped row.key]⟩

theorem creation_reports (row : RuleRow) (id : RuleId) :
    ∀ event ∈ (row.creation id).events, event.isOwn = false := by
  unfold creation
  split <;> simp [Event.isOwn]

theorem rule?_reports (row : RuleRow) : ∀ event ∈ row.rule?.events, event.isOwn = false := by
  unfold rule?
  split
  · exact row.creation_reports _
  · simp [Event.isOwn]

/-- Rows are ordered by the text of the creation time and then by identifier. -/
def precedes (a b : RuleRow) : Bool :=
  decide (a.createdAt < b.createdAt) || (a.createdAt == b.createdAt && !decide (b.id < a.id))

end RuleRow

structure RuleTable where
  rows : List RuleRow

namespace RuleTable

def empty : RuleTable := ⟨[]⟩

def contains (table : RuleTable) (id : List UInt8) : Bool := table.rows.any (·.id == id)

def insertRow (table : RuleTable) (row : RuleRow) : Except Outage RuleTable :=
  if table.contains row.id then .error (.refused "UNIQUE constraint failed: automation_rules.id")
  else .ok ⟨table.rows ++ [row]⟩

def insert (table : RuleTable) (rule : Rule) : Except Fault RuleTable := do
  rule.validate
  (table.insertRow (.ofRule rule)).mapError .outage

/-- Switches the rule called `id` on or off, and says whether there is one. -/
def setActive (table : RuleTable) (id : RuleId) (active : Bool) : Bool × RuleTable :=
  let set (row : RuleRow) := if row.id == id.uuid.bytes then { row with active := if active then 1 else 0 } else row
  (table.contains id.uuid.bytes, ⟨table.rows.map set⟩)

def count (table : RuleTable) : Nat := table.rows.length

/-- The rules of some rows, without those rows that are no rules. -/
def rulesOf : List RuleRow → Traced (List Rule)
  | [] => ⟨[], []⟩
  | row :: rest =>
      let first := row.rule?
      let others := rulesOf rest
      ⟨first.value.toList ++ others.value, first.events ++ others.events⟩

theorem rulesOf_reports (rows : List RuleRow) : ∀ event ∈ (rulesOf rows).events, event.isOwn = false := by
  induction rows with
  | nil => simp [rulesOf]
  | cons row rest ih =>
      intro event member
      rcases List.mem_append.mp member with first | others
      · exact row.rule?_reports event first
      · exact ih event others

def activeRules (table : RuleTable) : Traced (List Rule) :=
  rulesOf (sortBy RuleRow.precedes (table.rows.filter (·.active == 1)))

end RuleTable

/-- The columns of a row written by hand; each may be NULL. -/
structure RuleColumns where
  id : Option (List UInt8)
  name : Option String
  description : Option String
  triggerDevice : Option String
  trigger : Option String
  actionDevice : Option String
  action : Option String
  active : Option Int
  owner : Option (List UInt8)
  createdAt : Option String

/-- The row of some columns. None but the description may be NULL. -/
def RuleColumns.row? (c : RuleColumns) : Option RuleRow := do
  return {
    id := ← c.id, name := ← c.name, description := c.description, triggerDevice := ← c.triggerDevice,
    trigger := ← c.trigger, actionDevice := ← c.actionDevice, action := ← c.action, active := ← c.active,
    owner := ← c.owner, createdAt := ← c.createdAt }

end DeviceRules
