import DeviceRules.Proofs.Document.Fields
import DeviceRules.Proofs.Trees
import Mathlib.Data.List.Basic

/-! A condition that is saved and loaded again. -/
namespace DeviceRules

namespace Condition

/-- The keys under which a node of some kind looks for its fields. -/
def keysOf : String → List String
  | "value_threshold" => ["data_type", "operator", "threshold", "time_window_minutes", "window_minutes"]
  | "value_change" => ["data_type", "change_type", "min_change", "time_window_minutes", "window_minutes"]
  | "time_based" => ["time_type", "start_time", "end_time", "days", "interval_minutes", "last_trigger"]
  | "device_status" => ["expected_status", "status"]
  | "composite" => ["operator", "conditions"]
  | _ => []

theorem notMem_outerKeys_of_keysOf {kind key : String} (own : key ∈ keysOf kind) : key ∉ outerKeys := by
  unfold keysOf at own
  split at own
  case h_6 => cases own
  all_goals
    revert key
    decide

theorem childrenIn_eq (fields : Fields) :
    childrenIn fields = match fields.get? "conditions" with
      | none => .ok none
      | some value => some <$> childrenOf value := by
  induction fields with
  | nil => rfl
  | cons entry rest ih =>
      obtain ⟨key, value⟩ := entry
      by_cases found : key = "conditions"
      · simp only [childrenIn, found, if_true, Fields.get?_cons]
      · simp only [childrenIn, found, if_false, ih, Fields.get?_cons, Ne.symm found]

end Condition

namespace TimeCondition

/-- The keys under which a predicate on the clock looks for its fields, once its kind is known. -/
def keysOf : TimeKind → List String
  | .timeOfDay => ["end_time", "start_time"]
  | .dayOfWeek => ["days"]
  | .interval => ["interval_minutes", "last_trigger"]

theorem keysOf_subset (kind : TimeKind) : keysOf kind ⊆ Condition.keysOf "time_based" := by
  cases kind <;> decide

end TimeCondition

section Congruence

open Fields

variable {a b : Fields}

theorem ThresholdCondition.ofFields_congr (same : AgreeOn (Condition.keysOf "value_threshold") a b) :
    ofFields a = ofFields b := by
  simp only [ofFields, read?_congr (same "data_type" (by decide)), read?_congr (same "operator" (by decide)),
    read?_congr (same "threshold" (by decide)),
    readEither?_congr (same "time_window_minutes" (by decide)) (same "window_minutes" (by decide))]

theorem ChangeCondition.ofFields_congr (same : AgreeOn (Condition.keysOf "value_change") a b) :
    ofFields a = ofFields b := by
  simp only [ofFields, read?_congr (same "change_type" (by decide)), read?_congr (same "data_type" (by decide)),
    readOr_congr (same "min_change" (by decide)),
    readEither?_congr (same "time_window_minutes" (by decide)) (same "window_minutes" (by decide))]

theorem TimeCondition.ofKind_congr (kind : TimeKind) (same : AgreeOn (keysOf kind) a b) : ofKind a kind = ofKind b kind := by
  cases kind with
  | timeOfDay =>
      simp only [ofKind, read?_congr (same "end_time" (by decide)), read?_congr (same "start_time" (by decide))]
  | dayOfWeek => simp only [ofKind, readOr_congr (same "days" (by decide))]
  | interval =>
      simp only [ofKind, readOr_congr (same "interval_minutes" (by decide)),
        readOr_congr (same "last_trigger" (by decide))]

theorem TimeCondition.ofFields_congr (same : AgreeOn (Condition.keysOf "time_based") a b) :
    ofFields a = ofFields b := by
  have kinds : ofKind a = ofKind b := funext fun kind => ofKind_congr kind fun key own => same key (keysOf_subset kind own)
  simp only [ofFields, read?_congr (same "time_type" (by decide)), kinds]

theorem statusOfFields_congr (same : AgreeOn (Condition.keysOf "device_status") a b) :
    statusOfFields a = statusOfFields b := by
  simp only [statusOfFields,
    readEither?_congr (same "expected_status" (by decide)) (same "status" (by decide))]

/-- What a node decodes to depends on its kind and on the values under the keys of that kind. -/
theorem Condition.ofJson_congr (kind : a.get? "type" = b.get? "type")
    (same : ∀ name, b.get? "type" = some (.text name) → AgreeOn (keysOf name) a b) :
    ofJson (.object a) = ofJson (.object b) := by
  simp only [ofJson, ofFields, kindOf_congr kind]
  cases named : kindOf b with
  | error defect => rfl
  | ok name =>
      have agree := same name (kindOf_eq_ok.mp named)
      split
      case h_1 => rfl
      case h_2 chosen =>
        obtain rfl := Except.ok.inj chosen
        rw [ThresholdCondition.ofFields_congr agree]
      case h_3 chosen =>
        obtain rfl := Except.ok.inj chosen
        rw [ChangeCondition.ofFields_congr agree]
      case h_4 chosen =>
        obtain rfl := Except.ok.inj chosen
        rw [TimeCondition.ofFields_congr agree]
      case h_5 chosen =>
        obtain rfl := Except.ok.inj chosen
        rw [statusOfFields_congr agree]
      case h_6 chosen =>
        obtain rfl := Except.ok.inj chosen
        rw [childrenIn_eq, childrenIn_eq, agree "conditions" (by decide), readOr_congr (agree "operator" (by decide))]
      case h_7 => rfl

end Congruence

section Written

open Fields

theorem ThresholdCondition.ofFields_fields {c : ThresholdCondition}
    (finite : c.threshold.isFinite = true ∧ c.windowMinutes.isFinite = true) :
    ofFields (("type", .text "value_threshold") :: c.fields) = .ok c := by
  simp [ofFields, fields, read?, readEither?, required, Reader.text, Reader.choice_comparison,
    Reader.double_real finite.1, Reader.double_real finite.2]

theorem ChangeCondition.ofFields_fields {c : ChangeCondition}
    (finite : c.least.isFinite = true ∧ c.windowMinutes.isFinite = true) :
    ofFields (("type", .text "value_change") :: c.fields) = .ok c := by
  simp [ofFields, fields, read?, readOr, readEither?, required, Reader.text, Reader.choice_direction,
    Reader.double_real finite.1, Reader.double_real finite.2]

theorem statusOfFields_written (expected : String) :
    statusOfFields [("type", .text "device_status"), ("status", .text expected)] = .ok expected := by
  simp [statusOfFields, readEither?, required, Reader.text]

theorem TimeCondition.ofFields_fields {c : TimeCondition}
    (inYears : ∀ minutes last, c = .interval minutes (some last) → 0 ≤ last.year ∧ last.year ≤ 9999) :
    ofFields (("type", .text "time_based") :: c.fields) = .ok c := by
  cases c with
  | timeOfDay start stop =>
      have kind : Reader.tag TimeKind.table (.text "time_of_day") = .ok .timeOfDay := rfl
      simp [ofFields, ofKind, fields, read?, required, kind, Reader.text]
  | dayOfWeek days =>
      have kind : Reader.tag TimeKind.table (.text "day_of_week") = .ok .dayOfWeek := rfl
      have written : Reader.list .byte (.array (days.map fun d => .whole d.toNat)) = .ok days :=
        Reader.items_map Reader.byte_whole days
      simp [ofFields, ofKind, fields, read?, readOr, required, kind, written]
  | interval minutes last =>
      have kind : Reader.tag TimeKind.table (.text "interval") = .ok .interval := rfl
      cases last with
      | none => simp [ofFields, ofKind, fields, read?, readOr, required, kind, Reader.word_whole]
      | some last =>
          have written := Reader.instant_text (inYears minutes last rfl)
          simp [ofFields, ofKind, fields, read?, readOr, required, kind, written, Reader.word_whole]

end Written

section Finite

open Fields

theorem ThresholdCondition.finite_of_ofFields {fields : Fields} {c : ThresholdCondition}
    (read : ofFields fields = .ok c) : c.threshold.isFinite = true ∧ c.windowMinutes.isFinite = true := by
  obtain ⟨dataType, -, read⟩ := Except.bind_eq_ok.mp read
  obtain ⟨comparison, -, read⟩ := Except.bind_eq_ok.mp read
  obtain ⟨threshold, readThreshold, read⟩ := Except.bind_eq_ok.mp read
  obtain ⟨window, readWindow, read⟩ := Except.bind_eq_ok.mp read
  obtain ⟨_, -, read⟩ := Except.bind_eq_ok.mp read
  obtain ⟨_, -, read⟩ := Except.bind_eq_ok.mp read
  obtain ⟨x, named, read⟩ := Except.bind_eq_ok.mp read
  cases read
  refine ⟨read?_sound (fun _ _ => Reader.double_eq_ok) readThreshold x (required_eq_ok.mp named), ?_⟩
  cases window with
  | none => exact (by decide : (5 : Float).isFinite = true)
  | some minutes => exact readEither?_sound (fun _ _ => Reader.double_eq_ok) readWindow minutes rfl

theorem ChangeCondition.finite_of_ofFields {fields : Fields} {c : ChangeCondition}
    (read : ofFields fields = .ok c) : c.least.isFinite = true ∧ c.windowMinutes.isFinite = true := by
  obtain ⟨direction, -, read⟩ := Except.bind_eq_ok.mp read
  obtain ⟨dataType, -, read⟩ := Except.bind_eq_ok.mp read
  obtain ⟨least, readLeast, read⟩ := Except.bind_eq_ok.mp read
  obtain ⟨window, readWindow, read⟩ := Except.bind_eq_ok.mp read
  obtain ⟨_, -, read⟩ := Except.bind_eq_ok.mp read
  obtain ⟨_, -, read⟩ := Except.bind_eq_ok.mp read
  cases read
  refine ⟨readOr_sound (fun _ _ => Reader.double_eq_ok) (by decide) readLeast, ?_⟩
  cases window with
  | none => exact (by decide : (10 : Float).isFinite = true)
  | some minutes => exact readEither?_sound (fun _ _ => Reader.double_eq_ok) readWindow minutes rfl

end Finite

namespace Condition

/-- What is said about a node from outside makes no difference to it. -/
theorem ofJson_append {outer fields : Fields} (only : ∀ key, key ∉ outerKeys → outer.get? key = none) :
    ofJson (.object (outer ++ fields)) = ofJson (.object fields) := by
  refine ofJson_congr ?_ fun kind _ => Fields.agreeOn_append fun key own => only key (notMem_outerKeys_of_keysOf own)
  rw [Fields.get?_append, only "type" (by decide), Option.none_or]

theorem fst_notMem_outerKeys (c : Condition) : ∀ entry ∈ c.fields, entry.1 ∉ outerKeys := by
  cases c with
  | threshold c => simp [fields, ThresholdCondition.fields, outerKeys]
  | change c => simp [fields, ChangeCondition.fields, outerKeys]
  | time c => rcases c with _ | _ | ⟨minutes, _ | last⟩ <;> simp [fields, TimeCondition.fields, outerKeys]
  | status expected => simp [fields, outerKeys]
  | composite connective children => simp [fields, outerKeys]
  | unsupported kind defect => simp [fields, unsupportedFields, outerKeys]

theorem ofItems_eq (items : List Json) : ofItems items = items.map fun item => ⟨deviceOf item, ofJson item⟩ := by
  induction items with
  | nil => rfl
  | cons item rest ih => simp only [ofItems, ih, List.map_cons]

theorem childItems_eq (children : List (Addressed Condition)) :
    childItems children = children.map fun child => .object (deviceField child.device ++ child.node.fields) := by
  induction children with
  | nil => rfl
  | cons child rest ih => simp only [childItems, ih, List.map_cons]

/-- Saved children are loaded with their devices. -/
theorem ofItems_childItems (children : List (Addressed Condition)) :
    ofItems (childItems children) = children.map fun child => ⟨child.device, ofJson (.object child.node.fields)⟩ := by
  rw [ofItems_eq, childItems_eq, List.map_map]
  refine List.map_congr_left fun child _ => ?_
  rw [Function.comp_apply, deviceOf_deviceField _ child.node.fst_notMem_outerKeys,
    ofJson_append fun key inner => get?_deviceField _ inner]

mutual

def nodes : Condition → List Condition
  | composite connective children => composite connective children :: nodesBelow children
  | leaf => [leaf]

def nodesBelow : List (Addressed Condition) → List Condition
  | [] => []
  | ⟨_, node⟩ :: rest => node.nodes ++ nodesBelow rest

end

theorem nodesBelow_eq (children : List (Addressed Condition)) :
    nodesBelow children = children.flatMap fun child => child.node.nodes := by
  induction children with
  | nil => rfl
  | cons child rest ih => simp only [nodesBelow, ih, List.flatMap_cons]

theorem nodes_composite (connective : Connective) (children : List (Addressed Condition)) :
    (composite connective children).nodes =
      composite connective children :: children.flatMap fun child => child.node.nodes := by
  rw [nodes, nodesBelow_eq]

theorem mem_nodes_composite {connective : Connective} {children : List (Addressed Condition)} {node : Condition} :
    node ∈ (composite connective children).nodes ↔
      node = composite connective children ∨ ∃ child ∈ children, node ∈ child.node.nodes := by
  rw [nodes_composite, List.mem_cons, List.mem_flatMap]

theorem nodes_leaf {c : Condition} (leaf : c.isLeaf = true) : c.nodes = [c] := by
  cases c with
  | composite connective children => contradiction
  | _ => rfl

def lastTrigger? : Condition → Option Instant
  | time (.interval _ last) => last
  | _ => none

def lastTriggers (c : Condition) : List Instant := c.nodes.filterMap lastTrigger?

def isUnsupported : Condition → Bool
  | unsupported _ _ => true
  | _ => false

/-- Whether the numbers of a node are finite. Those of the nodes below it are not its own. -/
def numbersFinite : Condition → Prop
  | threshold c => c.threshold.isFinite = true ∧ c.windowMinutes.isFinite = true
  | change c => c.least.isFinite = true ∧ c.windowMinutes.isFinite = true
  | _ => True

mutual

/-- The condition with every unsupported node replaced by what the kind `unsupported` decodes to. -/
def reread : Condition → Condition
  | composite connective children => composite connective (rereadAll children)
  | unsupported _ _ => unsupported (some "unsupported") .unknownCondition
  | leaf => leaf

def rereadAll : List (Addressed Condition) → List (Addressed Condition)
  | [] => []
  | ⟨device, node⟩ :: rest => ⟨device, node.reread⟩ :: rereadAll rest

end

theorem rereadAll_eq (children : List (Addressed Condition)) :
    rereadAll children = children.map fun child => ⟨child.device, child.node.reread⟩ := by
  induction children with
  | nil => rfl
  | cons child rest ih => simp only [rereadAll, ih, List.map_cons]

theorem isLeaf_reread {c : Condition} (leaf : c.isLeaf = true) : c.reread.isLeaf = true := by
  cases c with
  | composite connective children => contradiction
  | _ => rfl

theorem nodes_reread (c : Condition) : c.reread.nodes = c.nodes.map reread := by
  induction c using leafInduction with
  | leaf c leaf => rw [nodes_leaf (isLeaf_reread leaf), nodes_leaf leaf, List.map_singleton]
  | composite connective children ih =>
      simp only [reread, rereadAll_eq, nodes_composite, List.map_cons, List.flatMap_map, List.map_flatMap]
      exact congrArg _ (List.flatMap_congr ih)

theorem reread_reread (c : Condition) : c.reread.reread = c.reread := by
  induction c using nodeInduction with
  | composite connective children ih =>
      simp only [reread, rereadAll_eq, List.map_map, composite.injEq, true_and]
      refine List.map_congr_left fun child member => ?_
      simp only [Function.comp_apply, ih child member]
  | _ => rfl

theorem reread_of_supported {c : Condition} (supported : ∀ node ∈ c.nodes, node.isUnsupported = false) :
    c.reread = c := by
  induction c using nodeInduction with
  | composite connective children ih =>
      have kept : ∀ child ∈ children, (⟨child.device, child.node.reread⟩ : Addressed Condition) = child := by
        intro child member
        rw [ih child member fun node below => supported node (mem_nodes_composite.mpr (.inr ⟨child, member, below⟩))]
      rw [reread, rereadAll_eq, List.map_congr_left kept, List.map_id']
  | unsupported kind defect => exact absurd (supported _ (List.mem_singleton_self _)) (by simp [isUnsupported])
  | _ => rfl

theorem lastTriggers_reread (c : Condition) : c.reread.lastTriggers = c.lastTriggers := by
  have same : lastTrigger? ∘ reread = lastTrigger? := by
    funext node
    cases node <;> rfl
  rw [lastTriggers, nodes_reread, List.filterMap_map, same]
  rfl

inductive IsDecoded : Condition → Prop
  | threshold {fields : Fields} {c : ThresholdCondition} (read : ThresholdCondition.ofFields fields = .ok c) :
      IsDecoded (threshold c)
  | change {fields : Fields} {c : ChangeCondition} (read : ChangeCondition.ofFields fields = .ok c) :
      IsDecoded (change c)
  | time (c : TimeCondition) : IsDecoded (time c)
  | status (expected : String) : IsDecoded (status expected)
  | composite (connective : Connective) (items : List Json) : IsDecoded (composite connective (ofItems items))
  | unsupported (kind : Option String) (defect : Defect) : IsDecoded (unsupported kind defect)

theorem isDecoded_orUnsupported {kind : String} {decoded : Except Defect Condition}
    (fine : ∀ c, decoded = .ok c → IsDecoded c) : IsDecoded (orUnsupported kind decoded) := by
  cases decoded with
  | ok c => exact fine c rfl
  | error defect => exact .unsupported (some kind) defect

theorem childrenIn_eq_ok {fields : Fields} {children : Option (List (Addressed Condition))}
    (read : childrenIn fields = .ok children) :
    ∃ items, children.getD [] = ofItems items ∧ ∀ item ∈ items, fields.get? "conditions" = some (.array items) := by
  rw [childrenIn_eq] at read
  cases found : fields.get? "conditions" with
  | none =>
      rw [found] at read
      obtain rfl := Except.ok.inj read
      exact ⟨[], rfl, fun _ member => absurd member List.not_mem_nil⟩
  | some value =>
      rw [found] at read
      obtain ⟨below, inner, rfl⟩ := Except.map_eq_ok.mp read
      cases value with
      | array items => exact ⟨items, (Except.ok.inj inner).symm, fun _ _ => rfl⟩
      | _ => cases inner

theorem isDecoded_ofJson (document : Json) : IsDecoded (ofJson document) := by
  unfold ofJson
  split
  case h_2 => exact .unsupported _ _
  case h_1 fields =>
    unfold ofFields
    split
    · exact .unsupported _ _
    · refine isDecoded_orUnsupported fun c decoded => ?_
      obtain ⟨inner, read, rfl⟩ := Except.map_eq_ok.mp decoded
      exact .threshold read
    · refine isDecoded_orUnsupported fun c decoded => ?_
      obtain ⟨inner, read, rfl⟩ := Except.map_eq_ok.mp decoded
      exact .change read
    · refine isDecoded_orUnsupported fun c decoded => ?_
      obtain ⟨inner, read, rfl⟩ := Except.map_eq_ok.mp decoded
      exact .time inner
    · refine isDecoded_orUnsupported fun c decoded => ?_
      obtain ⟨expected, read, rfl⟩ := Except.map_eq_ok.mp decoded
      exact .status expected
    · refine isDecoded_orUnsupported fun c decoded => ?_
      obtain ⟨children, read, decoded⟩ := Except.bind_eq_ok.mp decoded
      obtain ⟨connective, -, decoded⟩ := Except.bind_eq_ok.mp decoded
      obtain rfl := Except.ok.inj decoded
      obtain ⟨items, same, -⟩ := childrenIn_eq_ok read
      rw [same]
      exact .composite connective items
    · exact .unsupported _ _

/-- The numbers of a decoded condition are finite, since those of a document are. -/
theorem numbersFinite_ofJson {c : Condition} {document : Json} (decodes : ofJson document = c) :
    ∀ node ∈ c.nodes, node.numbersFinite := by
  -- The induction is on what was decoded, so that only entries of the document that became nodes have to be looked at.
  induction c using leafInduction generalizing document with
  | leaf c leaf =>
      intro node member
      obtain rfl : node = c := by simpa [nodes_leaf leaf] using member
      have decoded := decodes ▸ isDecoded_ofJson document
      cases decoded with
      | threshold read => exact ThresholdCondition.finite_of_ofFields read
      | change read => exact ChangeCondition.finite_of_ofFields read
      | composite connective items => contradiction
      | time | status | unsupported => trivial
  | composite connective children ih =>
      have decoded := decodes ▸ isDecoded_ofJson document
      cases decoded with
      | composite connective items =>
          intro node member
          rcases mem_nodes_composite.mp member with rfl | ⟨child, inside, below⟩
          · trivial
          · obtain ⟨item, -, rfl⟩ := List.mem_map.mp (ofItems_eq items ▸ inside)
            exact ih _ inside rfl node below

/-- A saved condition is loaded as it was, up to its unsupported nodes. -/
theorem ofJson_fields (c : Condition) (finite : ∀ node ∈ c.nodes, node.numbersFinite)
    (inYears : ∀ last ∈ c.lastTriggers, 0 ≤ last.year ∧ last.year ≤ 9999) :
    ofJson (.object c.fields) = c.reread := by
  induction c using nodeInduction with
  | threshold c =>
      have read := ThresholdCondition.ofFields_fields (finite _ (List.mem_singleton_self _))
      simp [ofJson, ofFields, kindOf, fields, read, reread, orUnsupported]
  | change c =>
      have read := ChangeCondition.ofFields_fields (finite _ (List.mem_singleton_self _))
      simp [ofJson, ofFields, kindOf, fields, read, reread, orUnsupported]
  | time c =>
      have read : TimeCondition.ofFields (("type", .text "time_based") :: c.fields) = .ok c := by
        refine TimeCondition.ofFields_fields fun minutes last same => inYears last ?_
        simp [same, lastTriggers, nodes, lastTrigger?]
      simp [ofJson, ofFields, kindOf, fields, read, reread, orUnsupported]
  | status expected =>
      have read := statusOfFields_written expected
      simp [ofJson, ofFields, kindOf, fields, read, reread, orUnsupported]
  | unsupported kind defect => simp [ofJson, ofFields, kindOf, fields, unsupportedFields, reread]
  | composite connective children ih =>
      have below : ∀ child ∈ children, ∀ node ∈ child.node.nodes, node ∈ (composite connective children).nodes := by
        intro child member node inside
        exact mem_nodes_composite.mpr (.inr ⟨child, member, inside⟩)
      have again : ∀ child ∈ children, ofJson (.object child.node.fields) = child.node.reread := by
        intro child member
        refine ih child member (fun node inside => finite node (below child member node inside)) fun last named => ?_
        obtain ⟨node, inside, names⟩ := List.mem_filterMap.mp named
        exact inYears last (List.mem_filterMap.mpr ⟨node, below child member node inside, names⟩)
      have read : childrenIn (composite connective children).fields = .ok (some (rereadAll children)) := by
        simp only [childrenIn_eq, fields, Fields.get?_cons, String.reduceEq, if_true, if_false, childrenOf,
          Except.map_ok, ofItems_childItems, rereadAll_eq]
        exact congrArg (Except.ok ∘ some) (List.map_congr_left fun child member => by rw [again child member])
      rw [ofJson, read]
      simp [ofFields, kindOf, fields, reread, orUnsupported, Fields.readOr, Fields.read?, Reader.choice_connective]

end Condition

end DeviceRules
