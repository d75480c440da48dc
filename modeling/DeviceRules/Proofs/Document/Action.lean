import DeviceRules.Proofs.Document.Fields
import DeviceRules.Proofs.Trees
import Mathlib.Data.List.Basic

/-! An action document that is decoded, saved and loaded again. -/
namespace DeviceRules

namespace Action

/-- The keys under which a node of some kind looks for its fields. -/
def keysOf : String → List String
  | "device_command" => ["command"]
  | "notification" => ["message", "notification_type"]
  | "webhook" => ["url", "method", "payload", "headers", "timeout_seconds"]
  | "delay" => ["delay_seconds"]
  | "sequence" => ["actions"]
  | _ => []

theorem notMem_outerKeys_of_keysOf {kind key : String} (own : key ∈ keysOf kind) : key ∉ outerKeys := by
  unfold keysOf at own
  split at own
  case h_6 => cases own
  all_goals
    revert key
    decide

theorem stepsIn_eq (fields : Fields) :
    stepsIn fields = match fields.get? "actions" with
      | none => .ok none
      | some value => some <$> stepsOf value := by
  induction fields with
  | nil => rfl
  | cons entry rest ih =>
      obtain ⟨key, value⟩ := entry
      by_cases found : key = "actions"
      · simp only [stepsIn, found, if_true, Fields.get?_cons]
      · simp only [stepsIn, found, if_false, ih, Fields.get?_cons, Ne.symm found]

end Action

section Congruence

open Fields

variable {a b : Fields}

theorem Webhook.ofFields_congr (same : AgreeOn (Action.keysOf "webhook") a b) : ofFields a = ofFields b := by
  simp only [ofFields, readOr_congr (same "headers" (by decide)), readOr_congr (same "method" (by decide)),
    readOr_congr (same "payload" (by decide)), readOr_congr (same "timeout_seconds" (by decide)),
    read?_congr (same "url" (by decide))]

/-- What a node decodes to depends on its kind and on the values under the keys of that kind. -/
theorem Action.ofJson_congr (kind : a.get? "type" = b.get? "type")
    (same : ∀ name, b.get? "type" = some (.text name) → AgreeOn (keysOf name) a b) :
    ofJson (.object a) = ofJson (.object b) := by
  simp only [ofJson, ofFields, kindOf_congr kind]
  cases named : kindOf b with
  | error defect => rfl
  | ok name =>
      have agree := same name (kindOf_eq_ok.mp named)
      split
      case h_1 => rfl
      case h_2 chosen =>
        obtain rfl := Except.ok.inj chosen
        rw [commandOfFields, commandOfFields, readOr_congr (agree "command" (by decide))]
      case h_3 chosen =>
        obtain rfl := Except.ok.inj chosen
        rw [notificationOfFields, notificationOfFields, readOr_congr (agree "message" (by decide)),
          readOr_congr (agree "notification_type" (by decide))]
      case h_4 chosen =>
        obtain rfl := Except.ok.inj chosen
        rw [Webhook.ofFields_congr agree]
      case h_5 chosen =>
        obtain rfl := Except.ok.inj chosen
        rw [delayOfFields, delayOfFields, readOr_congr (agree "delay_seconds" (by decide))]
      case h_6 chosen =>
        obtain rfl := Except.ok.inj chosen
        rw [stepsIn_eq, stepsIn_eq, agree "actions" (by decide)]
      case h_7 => rfl

theorem Webhook.ofFields_fields (hook : Webhook) : ofFields (("type", .text "webhook") :: hook.fields) = .ok hook := by
  simp [ofFields, fields, read?, readOr, required, Reader.text, Reader.any, Reader.method_name, Reader.long_whole,
    Reader.textMap_texts]

end Congruence

namespace Action

/-- What is said about a node from outside makes no difference to it. -/
theorem ofJson_append {outer fields : Fields} (only : ∀ key, key ∉ outerKeys → outer.get? key = none) :
    ofJson (.object (outer ++ fields)) = ofJson (.object fields) := by
  refine ofJson_congr ?_ fun kind _ => Fields.agreeOn_append fun key own => only key (notMem_outerKeys_of_keysOf own)
  rw [Fields.get?_append, only "type" (by decide), Option.none_or]

theorem fst_notMem_outerKeys (action : Action) : ∀ entry ∈ action.fields, entry.1 ∉ outerKeys := by
  cases action with
  | webhook hook => simp [fields, Webhook.fields, outerKeys]
  | unsupported kind defect => simp [fields, unsupportedFields, outerKeys]
  | _ => simp [fields, outerKeys]

theorem ofItems_eq (items : List Json) : ofItems items = items.map fun item => ⟨deviceOf item, ofJson item⟩ := by
  induction items with
  | nil => rfl
  | cons item rest ih => simp only [ofItems, ih, List.map_cons]

theorem stepItems_eq (steps : List (Addressed Action)) :
    stepItems steps = steps.map fun step => .object (deviceField step.device ++ step.node.fields) := by
  induction steps with
  | nil => rfl
  | cons step rest ih => simp only [stepItems, ih, List.map_cons]

/-- Saved steps are loaded with their devices. -/
theorem ofItems_stepItems (steps : List (Addressed Action)) :
    ofItems (stepItems steps) = steps.map fun step => ⟨step.device, ofJson (.object step.node.fields)⟩ := by
  rw [ofItems_eq, stepItems_eq, List.map_map]
  refine List.map_congr_left fun step _ => ?_
  rw [Function.comp_apply, deviceOf_deviceField _ step.node.fst_notMem_outerKeys,
    ofJson_append fun key inner => get?_deviceField _ inner]

mutual

def nodes : Action → List Action
  | sequence steps => sequence steps :: nodesBelow steps
  | leaf => [leaf]

def nodesBelow : List (Addressed Action) → List Action
  | [] => []
  | ⟨_, node⟩ :: rest => node.nodes ++ nodesBelow rest

end

theorem nodesBelow_eq (steps : List (Addressed Action)) :
    nodesBelow steps = steps.flatMap fun step => step.node.nodes := by
  induction steps with
  | nil => rfl
  | cons step rest ih => simp only [nodesBelow, ih, List.flatMap_cons]

theorem mem_nodes_sequence {steps : List (Addressed Action)} {node : Action} :
    node ∈ (sequence steps).nodes ↔ node = sequence steps ∨ ∃ step ∈ steps, node ∈ step.node.nodes := by
  rw [nodes, nodesBelow_eq, List.mem_cons, List.mem_flatMap]

def isUnsupported : Action → Bool
  | unsupported _ _ => true
  | _ => false

def delayFinite : Action → Prop
  | delay seconds => seconds.isFinite = true
  | _ => True

mutual

/-- The action with every unsupported node replaced by what the kind `unsupported` decodes to. -/
def reread : Action → Action
  | sequence steps => sequence (rereadAll steps)
  | unsupported _ _ => unsupported (some "unsupported") .unknownAction
  | leaf => leaf

def rereadAll : List (Addressed Action) → List (Addressed Action)
  | [] => []
  | ⟨device, node⟩ :: rest => ⟨device, node.reread⟩ :: rereadAll rest

end

theorem rereadAll_eq (steps : List (Addressed Action)) :
    rereadAll steps = steps.map fun step => ⟨step.device, step.node.reread⟩ := by
  induction steps with
  | nil => rfl
  | cons step rest ih => simp only [rereadAll, ih, List.map_cons]

theorem reread_of_supported {action : Action} (supported : ∀ node ∈ action.nodes, node.isUnsupported = false) :
    action.reread = action := by
  induction action using nodeInduction with
  | sequence steps ih =>
      have kept : ∀ step ∈ steps, (⟨step.device, step.node.reread⟩ : Addressed Action) = step := by
        intro step member
        rw [ih step member fun node below => supported node (mem_nodes_sequence.mpr (.inr ⟨step, member, below⟩))]
      rw [reread, rereadAll_eq, List.map_congr_left kept, List.map_id']
  | unsupported kind defect => exact absurd (supported _ (List.mem_singleton_self _)) (by simp [isUnsupported])
  | _ => rfl

inductive IsDecoded : Action → Prop
  | delay {seconds : Float} (finite : seconds.isFinite = true) : IsDecoded (delay seconds)
  | sequence (items : List Json) : IsDecoded (sequence (ofItems items))
  | command (body : Command) : IsDecoded (command body)
  | notification (message channel : String) : IsDecoded (notification message channel)
  | webhook (hook : Webhook) : IsDecoded (webhook hook)
  | unsupported (kind : Option String) (defect : Defect) : IsDecoded (unsupported kind defect)

theorem isDecoded_orUnsupported {kind : String} {decoded : Except Defect Action}
    (fine : ∀ action, decoded = .ok action → IsDecoded action) : IsDecoded (orUnsupported kind decoded) := by
  cases decoded with
  | ok action => exact fine action rfl
  | error defect => exact .unsupported (some kind) defect

theorem stepsIn_eq_ok {fields : Fields} {steps : Option (List (Addressed Action))}
    (read : stepsIn fields = .ok steps) :
    ∃ items, steps.getD [] = ofItems items ∧ ∀ item ∈ items, fields.get? "actions" = some (.array items) := by
  rw [stepsIn_eq] at read
  cases found : fields.get? "actions" with
  | none =>
      rw [found] at read
      obtain rfl := Except.ok.inj read
      exact ⟨[], rfl, fun _ member => absurd member List.not_mem_nil⟩
  | some value =>
      rw [found] at read
      obtain ⟨below, inner, rfl⟩ := Except.map_eq_ok.mp read
      cases value with
      | array items => exact ⟨items, (Except.ok.inj inner).symm, fun _ _ => rfl⟩
      | _ => cases inner

theorem isDecoded_ofJson (document : Json) : IsDecoded (ofJson document) := by
  unfold ofJson
  split
  case h_2 => exact .unsupported _ _
  case h_1 fields =>
    unfold ofFields
    split
    · exact .unsupported _ _
    · refine isDecoded_orUnsupported fun action decoded => ?_
      obtain ⟨body, -, same⟩ := Except.bind_eq_ok.mp decoded
      obtain rfl := Except.ok.inj same
      exact .command body
    · refine isDecoded_orUnsupported fun action decoded => ?_
      obtain ⟨message, -, decoded⟩ := Except.bind_eq_ok.mp decoded
      obtain ⟨channel, -, same⟩ := Except.bind_eq_ok.mp decoded
      obtain rfl := Except.ok.inj same
      exact .notification message channel
    · refine isDecoded_orUnsupported fun action decoded => ?_
      obtain ⟨hook, -, rfl⟩ := Except.map_eq_ok.mp decoded
      exact .webhook hook
    · refine isDecoded_orUnsupported fun action decoded => ?_
      obtain ⟨seconds, read, same⟩ := Except.bind_eq_ok.mp decoded
      obtain rfl := Except.ok.inj same
      exact .delay (Fields.readOr_sound (fun _ _ => Reader.double_eq_ok) (by decide) read)
    · refine isDecoded_orUnsupported fun action decoded => ?_
      obtain ⟨steps, read, rfl⟩ := Except.map_eq_ok.mp decoded
      obtain ⟨items, same, -⟩ := stepsIn_eq_ok read
      rw [same]
      exact .sequence items
    · exact .unsupported _ _

/-- The delays of a decoded action are finite, since the numbers of a document are. -/
theorem delayFinite_ofJson {action : Action} {document : Json} (decodes : ofJson document = action) :
    ∀ node ∈ action.nodes, node.delayFinite := by
  -- As for conditions, the induction is on what was decoded and not on the document.
  induction action using nodeInduction generalizing document with
  | sequence steps ih =>
      have decoded := decodes ▸ isDecoded_ofJson document
      cases decoded with
      | sequence items =>
          intro node member
          rcases mem_nodes_sequence.mp member with rfl | ⟨step, inside, below⟩
          · trivial
          · obtain ⟨item, -, rfl⟩ := List.mem_map.mp (ofItems_eq items ▸ inside)
            exact ih _ inside rfl node below
  | delay seconds =>
      have decoded := decodes ▸ isDecoded_ofJson document
      cases decoded with
      | delay finite =>
          intro node member
          rw [List.mem_singleton.mp member]
          exact finite
  | _ =>
      intro node member
      rw [List.mem_singleton.mp member]
      trivial

/-- A saved action is loaded as it was, up to its unsupported nodes. -/
theorem ofJson_fields (action : Action) (finite : ∀ node ∈ action.nodes, node.delayFinite) :
    ofJson (.object action.fields) = action.reread := by
  induction action using nodeInduction with
  | command body =>
      simp [ofJson, ofFields, kindOf, fields, reread, orUnsupported, commandOfFields, Fields.readOr, Fields.read?,
        Reader.map]
  | notification message channel =>
      simp [ofJson, ofFields, kindOf, fields, reread, orUnsupported, notificationOfFields, Fields.readOr, Fields.read?,
        Reader.text]
  | webhook hook =>
      have read := hook.ofFields_fields
      simp [ofJson, ofFields, kindOf, fields, read, reread, orUnsupported]
  | delay seconds =>
      have read := Reader.double_real (finite _ (List.mem_singleton_self _))
      simp [ofJson, ofFields, kindOf, fields, read, reread, orUnsupported, delayOfFields, Fields.readOr, Fields.read?]
  | unsupported kind defect => simp [ofJson, ofFields, kindOf, fields, unsupportedFields, reread]
  | sequence steps ih =>
      have again : ∀ step ∈ steps, ofJson (.object step.node.fields) = step.node.reread := by
        intro step member
        exact ih step member fun node below => finite node (mem_nodes_sequence.mpr (.inr ⟨step, member, below⟩))
      have read : stepsIn (sequence steps).fields = .ok (some (rereadAll steps)) := by
        simp only [stepsIn_eq, fields, Fields.get?_cons, String.reduceEq, if_true, if_false, stepsOf,
          Except.map_ok, ofItems_stepItems, rereadAll_eq]
        exact congrArg (Except.ok ∘ some) (List.map_congr_left fun step member => by rw [again step member])
      rw [ofJson, read]
      simp [ofFields, kindOf, fields, reread, orUnsupported]

/-- A decoded action that is saved and loaded comes back as it was, with the kind and the fields of every node and the
device of every step, except that the unsupported nodes come back as the unsupported kind `unsupported`. -/
theorem action_survives_saving (document : Json) :
    let action := ofJson document
    let again := ofJson action.toJson
    again = action.reread ∧
      ((∀ node ∈ action.nodes, node.isUnsupported = false) → again = action) ∧
      Defect.unknownAction.message = "unknown action type" := by
  intro action again
  have first : again = action.reread := action.ofJson_fields (delayFinite_ofJson rfl)
  refine ⟨first, fun supported => ?_, rfl⟩
  rw [first, reread_of_supported supported]

def eveningDocument : Json :=
  .object [("type", .text "sequence"), ("actions", .array [
    .object [("device_id", .text "lamp"), ("type", .text "device_command"),
      ("command", .object [("level", .array [.whole 3, .null])])],
    .object [("type", .text "webhook"), ("url", .text "http://hub/evening"), ("method", .text "get")],
    .object [("type", .text "delay")]])]

theorem action_survives_saving_of_evening :
    (∀ node ∈ (ofJson eveningDocument).nodes, node.isUnsupported = false) ∧
      ofJson (ofJson eveningDocument).toJson = ofJson eveningDocument := by
  have supported : ∀ node ∈ (ofJson eveningDocument).nodes, node.isUnsupported = false := by decide +kernel
  exact ⟨supported, (action_survives_saving eveningDocument).2.1 supported⟩

end Action

end DeviceRules
