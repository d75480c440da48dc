import DeviceRules.Proofs.Document.Locality
import Mathlib.Logic.Relation

/-! Entries that nothing reads. A node reads its kind and the fields of that kind, a predicate on the clock its time type
and the fields of that; what is around a node reads its device or, of a trigger, the rate limit. Entries under any other
keys make no difference, whatever their values, at whichever nodes of a document they are added. -/
namespace DeviceRules

/-- The keys that a predicate on the clock reads. Which fields it has depends on the value under the first. -/
def TimeCondition.reads (fields : Fields) : List String :=
  "time_type" :: match fields.read? "time_type" (.tag TimeKind.table) with
    | .ok (some kind) => keysOf kind
    | _ => []

namespace Condition

/-- The keys that a node reads, given its entries. -/
def reads (fields : Fields) : List String :=
  "type" :: match kindOf fields with
    | .ok "time_based" => TimeCondition.reads fields
    | .ok kind => keysOf kind
    | .error _ => []

end Condition

namespace Action

def reads (fields : Fields) : List String :=
  "type" :: match kindOf fields with
    | .ok kind => keysOf kind
    | .error _ => []

end Action

section Reading

open Fields

variable {a b : Fields}

theorem TimeCondition.ofFields_congr_reads (same : AgreeOn (reads b) a b) : ofFields a = ofFields b := by
  obtain ⟨timeType, own⟩ := List.forall_mem_cons.mp same
  simp only [ofFields, read?_congr timeType]
  cases named : b.read? "time_type" (.tag TimeKind.table) with
  | error defect => rfl
  | ok found =>
      cases found with
      | none => rfl
      | some kind =>
          rw [named] at own
          exact ofKind_congr kind own

/-- Only what a condition reads matters. -/
theorem Condition.ofJson_congr_reads (same : AgreeOn (reads b) a b) : ofJson (.object a) = ofJson (.object b) := by
  obtain ⟨kind, own⟩ := List.forall_mem_cons.mp same
  by_cases time : b.get? "type" = some (.text "time_based")
  · rw [kindOf_eq_ok.mpr time] at own
    simp only [ofJson, ofFields, kindOf_congr kind, kindOf_eq_ok.mpr time, TimeCondition.ofFields_congr_reads own]
  · refine ofJson_congr kind fun name named key member => own key ?_
    have other : name ≠ "time_based" := fun same => time (same ▸ named)
    simpa only [kindOf_eq_ok.mpr named] using member

/-- Only what an action reads matters. -/
theorem Action.ofJson_congr_reads (same : AgreeOn (reads b) a b) : ofJson (.object a) = ofJson (.object b) := by
  obtain ⟨kind, own⟩ := List.forall_mem_cons.mp same
  refine ofJson_congr kind fun name named key member => own key ?_
  simpa only [kindOf_eq_ok.mpr named] using member

end Reading

theorem Fields.get?_filter_notMem {added : List String} {fields : Fields} {key : String} (other : key ∉ added) :
    get? (fields.filter fun entry => entry.1 ∉ added) key = fields.get? key := by
  induction fields with
  | nil => rfl
  | cons entry rest ih =>
      obtain ⟨name, value⟩ := entry
      rw [List.filter_cons, get?_cons]
      by_cases new : name ∈ added
      · have apart : key ≠ name := fun same => other (same ▸ new)
        rw [if_neg (by simpa using new), if_neg apart, ih]
      · rw [if_pos (by simpa using new), get?_cons, ih]

theorem Fields.get?_update_of_ne {key name : String} (other : name ≠ key) (f : Json → Json) (fields : Fields) :
    get? (update key f fields) name = get? fields name := by
  rw [get?_update, if_neg other]

/-- Putting something else in the place of an item makes no difference to a function that takes both to the same. -/
theorem map_set_of_eq {α β : Type} {f : α → β} {items : List α} {i : Nat} {old new : α} (found : items[i]? = some old)
    (same : f new = f old) : (items.set i new).map f = items.map f := by
  obtain ⟨bound, rfl⟩ := List.getElem?_eq_some_iff.mp found
  rw [List.map_set, same, ← List.getElem_map f (h := by simpa using bound), List.set_getElem_self]

namespace Json

/-- One document comes from another by adding entries to one of its nodes, which are the document itself and, at any
depth, the elements of the arrays under the key `below`. The keys of the new entries are new there. Neither does the
node read them nor are they read from around it: the keys that are read from around the document itself are given, and
around any other node it is the device. -/
inductive Adds (below : String) (reads : Fields → List String) : List String → Json → Json → Prop
  | here {around : List String} {before after : Fields} (added : List String)
      (unread : ∀ key ∈ added, key ∉ around ∧ key ∉ reads before)
      (kept : after.filter (fun entry => entry.1 ∉ added) = before) :
      Adds below reads around (object before) (object after)
  | inside {around : List String} {fields : Fields} {items : List Json} {i : Nat} {before after : Json}
      (listed : fields.get? below = some (array items)) (found : items[i]? = some before)
      (inner : Adds below reads ["device_id"] before after) :
      Adds below reads around (object fields) (object (Fields.update below (onArray (·.set i after)) fields))

variable {α : Type} {decode : Json → α} {below : String} {reads : Fields → List String} {around : List String}

/-- When a node decodes to what it reads, and elements enter it by what they decode to and their devices only, adding
entries changes neither what a document decodes to nor what is read from around it. -/
theorem Adds.keeps {before after : Json} (adds : Adds below reads around before after) (apart : below ∉ around)
    (device : below ≠ "device_id")
    (read : ∀ a b, Fields.AgreeOn (reads b) a b → decode (object a) = decode (object b))
    (nested : ∀ (fields : Fields) (items : List Json) (i : Nat) (old new : Json),
      fields.get? below = some (array items) → items[i]? = some old → decode new = decode old →
      new.get? "device_id" = old.get? "device_id" →
      decode (object (Fields.update below (onArray (·.set i new)) fields)) = decode (object fields)) :
    decode after = decode before ∧ ∀ key ∈ around, after.get? key = before.get? key := by
  induction adds with
  | @here around before after added unread kept =>
      have same (key : String) (old : key ∉ added) : after.get? key = before.get? key := by
        rw [← kept, Fields.get?_filter_notMem old]
      exact ⟨read after before fun key own => same key fun new => (unread key new).2 own,
        fun key outer => same key fun new => (unread key new).1 outer⟩
  | @inside around fields items i before after listed found inner ih =>
      obtain ⟨decoded, outer⟩ := ih (by simpa using device)
      refine ⟨nested fields items i before after listed found decoded (outer _ List.mem_cons_self), fun key isOuter => ?_⟩
      exact Fields.get?_update_of_ne (fun same : key = below => apart (same ▸ isOuter)) _ _

end Json

theorem deviceOf_congr {old new : Json} (same : new.get? "device_id" = old.get? "device_id") :
    deviceOf new = deviceOf old := by
  rw [deviceOf, deviceOf, Json.textAt?, Json.textAt?, same]

section Elements

variable {fields : Fields} {items : List Json} {i : Nat} {old new : Json}

namespace Condition

theorem conditions_notMem_keysOf {name : String} (other : name ≠ "composite") : "conditions" ∉ keysOf name := by
  unfold keysOf
  split
  case h_5 => exact absurd rfl other
  all_goals decide

/-- A condition in an array may be replaced by one that is decoded alike. -/
theorem ofJson_update (listed : fields.get? "conditions" = some (.array items)) (found : items[i]? = some old)
    (same : ofElement new = ofElement old) :
    ofJson (.object (Fields.update "conditions" (Json.onArray (·.set i new)) fields)) = ofJson (.object fields) := by
  have others (key : String) (other : key ≠ "conditions") := Fields.get?_update_of_ne other (Json.onArray (·.set i new)) fields
  have kind := others "type" (by decide)
  by_cases composite : fields.get? "type" = some (.text "composite")
  · have children : childrenIn (Fields.update "conditions" (Json.onArray (·.set i new)) fields) = childrenIn fields := by
      rw [childrenIn_eq, childrenIn_eq, Fields.get?_update, if_pos rfl, listed]
      have decoded : ofItems (items.set i new) = ofItems items := by
        rw [ofItems_eq, ofItems_eq]
        exact map_set_of_eq (f := ofElement) found same
      simp only [Option.map_some, Json.onArray, childrenOf, decoded]
    simp only [ofJson, ofFields, kindOf_congr kind, kindOf_eq_ok.mpr composite, children,
      Fields.readOr_congr (others "operator" (by decide))]
  · refine ofJson_congr kind fun name named key own => others key fun same => ?_
    have leaf : name ≠ "composite" := fun same => composite (same ▸ named)
    exact conditions_notMem_keysOf leaf (same ▸ own)

end Condition

namespace Action

theorem actions_notMem_keysOf {name : String} (other : name ≠ "sequence") : "actions" ∉ keysOf name := by
  unfold keysOf
  split
  case h_5 => exact absurd rfl other
  all_goals decide

/-- An action in an array may be replaced by one that is decoded alike. -/
theorem ofJson_update (listed : fields.get? "actions" = some (.array items)) (found : items[i]? = some old)
    (same : ofElement new = ofElement old) :
    ofJson (.object (Fields.update "actions" (Json.onArray (·.set i new)) fields)) = ofJson (.object fields) := by
  have others (key : String) (other : key ≠ "actions") := Fields.get?_update_of_ne other (Json.onArray (·.set i new)) fields
  have kind := others "type" (by decide)
  by_cases sequence : fields.get? "type" = some (.text "sequence")
  · have steps : stepsIn (Fields.update "actions" (Json.onArray (·.set i new)) fields) = stepsIn fields := by
      rw [stepsIn_eq, stepsIn_eq, Fields.get?_update, if_pos rfl, listed]
      have decoded : ofItems (items.set i new) = ofItems items := by
        rw [ofItems_eq, ofItems_eq]
        exact map_set_of_eq (f := ofElement) found same
      simp only [Option.map_some, Json.onArray, stepsOf, decoded]
    simp only [ofJson, ofFields, kindOf_congr kind, kindOf_eq_ok.mpr sequence, steps]
  · refine ofJson_congr kind fun name named key own => others key fun same => ?_
    have leaf : name ≠ "sequence" := fun same => sequence (same ▸ named)
    exact actions_notMem_keysOf leaf (same ▸ own)

end Action

end Elements

section Documents

variable {before after : Json}

theorem Trigger.ofJson_adds (adds : Json.Adds "conditions" Condition.reads ["min_interval_seconds"] before after) :
    ofJson after = ofJson before := by
  obtain ⟨condition, outer⟩ := adds.keeps (by decide) (by decide) (fun _ _ => Condition.ofJson_congr_reads)
    fun _ _ _ _ _ listed found decoded device => Condition.ofJson_update listed found <| by
      rw [Condition.ofElement, Condition.ofElement, decoded, deviceOf_congr device]
  rw [ofJson, ofJson, condition, minIntervalOf, minIntervalOf, outer _ List.mem_cons_self]

theorem Action.ofJson_adds (adds : Json.Adds "actions" Action.reads [] before after) : ofJson after = ofJson before :=
  (adds.keeps (by decide) (by decide) (fun _ _ => ofJson_congr_reads)
    fun _ _ _ _ _ listed found decoded device => ofJson_update listed found <| by
      rw [ofElement, ofElement, decoded, deviceOf_congr device]).1

end Documents

/-- However many entries are added to the nodes of a trigger or an action, under keys that the nodes do not read, the
document is decoded to the same tree: the same nodes with the same devices, and those that cannot be decoded with the
same kinds and defects. -/
theorem unread_entries_are_ignored (before after : Json) :
    (Relation.ReflTransGen (Json.Adds "conditions" Condition.reads ["min_interval_seconds"]) before after →
      Trigger.ofJson after = Trigger.ofJson before) ∧
    (Relation.ReflTransGen (Json.Adds "actions" Action.reads []) before after →
      Action.ofJson after = Action.ofJson before) := by
  refine ⟨fun additions => ?_, fun additions => ?_⟩
  · induction additions with
    | refl => rfl
    | tail _ adds ih => exact (Trigger.ofJson_adds adds).trans ih
  · induction additions with
    | refl => rfl
    | tail _ adds ih => exact (Action.ofJson_adds adds).trans ih

def clockFields : Fields :=
  [("days", .array [.whole 5]), ("device_id", .text "clock"), ("time_type", .text "day_of_week"),
    ("type", .text "time_based")]

/-- The last key is one that other predicates on the clock read. -/
def notedClockFields : Fields := ("comment", .text "Saturdays") :: clockFields ++ [("start_time", .whole 3)]

def brokenFields : Fields := [("operator", .text "almost"), ("type", .text "value_threshold")]

def porchTrigger (clock broken extra : Fields) : Json :=
  .object (extra ++ [("conditions", .array [.object clock, .object broken]), ("type", .text "composite")])

def porchAction (step : Fields) : Json :=
  .object [("actions", .array [.null, .object step]), ("type", .text "sequence")]

/-- Entries are added to a predicate on the clock, to a leaf that cannot be decoded and to the composite around them, and
to a delay in a sequence. -/
theorem unread_entries_are_ignored_of_porch :
    let plain := porchTrigger clockFields brokenFields []
    let noted := porchTrigger notedClockFields (("aaa", .array []) :: brokenFields) [("device_id", .null)]
    let wait := porchAction [("type", .text "delay")]
    let notedWait := porchAction [("command", .null), ("type", .text "delay")]
    Trigger.ofJson noted = Trigger.ofJson plain ∧
      (Trigger.ofJson plain).condition = .composite .and
        [⟨some ⟨"clock"⟩, .time (.dayOfWeek [5])⟩,
          ⟨none, .unsupported (some "value_threshold") (.unknownName "almost" ["gt", "lt", "eq", "gte", "lte"])⟩] ∧
      Action.ofJson notedWait = Action.ofJson wait := by
  intro plain noted wait notedWait
  have clock : Json.Adds "conditions" Condition.reads ["min_interval_seconds"] plain
      (porchTrigger notedClockFields brokenFields []) :=
    .inside (i := 0) rfl rfl (.here ["comment", "start_time"] (by decide +kernel) rfl)
  have broken : Json.Adds "conditions" Condition.reads ["min_interval_seconds"]
      (porchTrigger notedClockFields brokenFields [])
      (porchTrigger notedClockFields (("aaa", .array []) :: brokenFields) []) :=
    .inside (i := 1) rfl rfl (.here ["aaa"] (by decide +kernel) rfl)
  have composite : Json.Adds "conditions" Condition.reads ["min_interval_seconds"]
      (porchTrigger notedClockFields (("aaa", .array []) :: brokenFields) []) noted :=
    .here ["device_id"] (by decide +kernel) rfl
  have delay : Json.Adds "actions" Action.reads [] wait notedWait :=
    .inside (i := 1) rfl rfl (.here ["command"] (by decide +kernel) rfl)
  exact ⟨(unread_entries_are_ignored plain noted).1 (((Relation.ReflTransGen.single clock).tail broken).tail composite),
    rfl, (unread_entries_are_ignored wait notedWait).2 (.single delay)⟩

end DeviceRules
