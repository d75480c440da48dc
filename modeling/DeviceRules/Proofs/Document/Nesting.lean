import DeviceRules.Proofs.Document.Action
import DeviceRules.Proofs.Document.Trigger
import DeviceRules.Proofs.Json.Written

/-! How deep a saved document is. Saving writes every default out, among them an empty array of conditions and an
empty command, so a saved document may be one level deeper than the loaded one; that is enough to make the deepest
documents unreadable, and no other. -/
namespace DeviceRules

open Json

/-- A field that is absent or holds what was read. -/
theorem Fields.readOr_eq_ok {α : Type} {fields : Fields} {key : String} {read : Reader α} {absent found : α}
    (given : fields.readOr key read absent = .ok found) :
    found = absent ∨ ∃ json, fields.get? key = some json ∧ read json = .ok found := by
  obtain ⟨value, readValue, same⟩ := Except.bind_eq_ok.mp given
  obtain rfl : value.getD absent = found := Except.ok.inj same
  unfold read? at readValue
  split at readValue
  case h_1 =>
    obtain rfl := Except.ok.inj readValue
    exact .inl rfl
  case h_2 json present =>
    obtain ⟨x, fine, rfl⟩ := Except.map_eq_ok.mp readValue
    exact .inr ⟨json, present, fine⟩

theorem kindOf_eq_error {fields : Fields} {defect : Defect} (nameless : kindOf fields = .error defect) :
    defect = .tagNotText ∨ defect = .tagMissing := by
  unfold kindOf at nameless
  split at nameless
  · cases nameless
  · exact .inl (Except.error.inj nameless).symm
  · exact .inr (Except.error.inj nameless).symm

/-- Whether every field of a record can be read with so many levels. -/
def Fields.Readable (n : Nat) (fields : Fields) : Prop := ∀ entry ∈ fields, entry.2.Readable n

theorem readable_of_get? {n : Nat} {fields : Fields} {key : String} {value : Json} (each : fields.Readable n)
    (found : fields.get? key = some value) : value.Readable n := each (key, value) (Fields.mem_of_get? found)

theorem readable_deviceField (n : Nat) (device : Option DeviceId) : Fields.Readable n (deviceField device) := by
  intro entry member
  cases device with
  | none => cases member
  | some d =>
      obtain rfl := List.mem_singleton.mp member
      exact readable_text d.name

theorem readable_unsupportedFields (n : Nat) (kind : Option String) (defect : Defect) :
    Fields.Readable n (unsupportedFields kind defect) := by
  have kinds : (optionalText kind).Readable n := by
    cases kind with
    | none => exact readable_null
    | some s => exact readable_text s
  simp only [Fields.Readable, unsupportedFields, List.forall_mem_cons]
  exact ⟨readable_text _, kinds, readable_text _, List.forall_mem_nil _⟩

/-- The nodes below a node, each saved with the device that it names. -/
theorem readable_below {n : Nat} {fields : Fields} {key : String} {items : List Json} (each : fields.Readable n)
    (below : ∀ item ∈ items, fields.get? key = some (.array items)) {saved : Json → Fields}
    (saves : ∀ k < n, ∀ item : Json, item.Readable k → Fields.Readable k (saved item)) :
    (Json.array (items.map fun item => .object (deviceField (deviceOf item) ++ saved item))).Readable (n + 1) := by
  refine readable_array.mpr fun node member => ?_
  obtain ⟨item, inside, rfl⟩ := List.mem_map.mp member
  obtain ⟨k, rfl, items⟩ := (readable_of_get? each (below item inside)).exists_array
  refine readable_object.mpr fun entry member => ?_
  obtain named | own := List.mem_append.mp member
  · exact readable_deviceField k _ entry named
  · exact saves k (Nat.lt_succ_self k) item (items item inside) entry own

namespace Condition

/-- Whether a condition stands for a text that is no document at all. -/
def isMalformed : Condition → Bool
  | unsupported none (.notJson _) => true
  | _ => false

theorem readable_orUnsupported {n : Nat} {kind : String} {decoded : Except Defect Condition}
    (fine : ∀ c, decoded = .ok c → Fields.Readable n c.fields) :
    Fields.Readable n (orUnsupported kind decoded).fields := by
  cases decoded with
  | ok c => exact fine c rfl
  | error defect => exact readable_unsupportedFields n _ defect

/-- The fields of a leaf need no level but the one for a list of days. -/
theorem readable_leaf {c : Condition} (leaf : c.isLeaf = true) (n : Nat) : Fields.Readable (n + 1) c.fields := by
  cases c with
  | composite connective children => cases leaf
  | unsupported kind defect => exact readable_unsupportedFields _ kind defect
  | threshold c =>
      simp only [Fields.Readable, fields, ThresholdCondition.fields, List.forall_mem_cons]
      exact ⟨readable_text _, readable_text _, readable_text _, readable_real _, readable_real _, List.forall_mem_nil _⟩
  | change c =>
      simp only [Fields.Readable, fields, ChangeCondition.fields, List.forall_mem_cons]
      exact ⟨readable_text _, readable_text _, readable_text _, readable_real _, readable_real _, List.forall_mem_nil _⟩
  | status expected =>
      simp only [Fields.Readable, fields, List.forall_mem_cons]
      exact ⟨readable_text _, readable_text _, List.forall_mem_nil _⟩
  | time c =>
      cases c with
      | timeOfDay start stop =>
          simp only [Fields.Readable, fields, TimeCondition.fields, List.forall_mem_cons]
          exact ⟨readable_text _, readable_text _, readable_text _, readable_text _, List.forall_mem_nil _⟩
      | dayOfWeek days =>
          have written : (Json.array (days.map fun d => .whole d.toNat)).Readable (n + 1) := by
            refine readable_array.mpr fun item member => ?_
            obtain ⟨d, -, rfl⟩ := List.mem_map.mp member
            exact readable_natural (d.toNat_lt.trans (by decide))
          simp only [Fields.Readable, fields, TimeCondition.fields, List.forall_mem_cons]
          exact ⟨readable_text _, readable_text _, written, List.forall_mem_nil _⟩
      | interval minutes last =>
          have small : minutes.toNat < 0x10000000000000000 := minutes.toNat_lt.trans (by decide)
          cases last with
          | none =>
              simp only [Fields.Readable, fields, TimeCondition.fields, List.append_nil, List.forall_mem_cons]
              exact ⟨readable_text _, readable_text _, readable_natural small, List.forall_mem_nil _⟩
          | some t =>
              simp only [Fields.Readable, fields, TimeCondition.fields, List.cons_append, List.nil_append,
                List.forall_mem_cons]
              exact ⟨readable_text _, readable_text _, readable_natural small, readable_text _, List.forall_mem_nil _⟩

theorem isMalformed_orUnsupported {kind : String} {decoded : Except Defect Condition}
    (fine : ∀ c, decoded = .ok c → c.isMalformed = false) : (orUnsupported kind decoded).isMalformed = false := by
  cases decoded with
  | ok c => exact fine c rfl
  | error defect => rfl

theorem isMalformed_ofJson (document : Json) : (ofJson document).isMalformed = false := by
  unfold ofJson
  split
  case h_2 => rfl
  case h_1 fields =>
    unfold ofFields
    split
    case h_1 defect nameless => obtain rfl | rfl := kindOf_eq_error nameless <;> rfl
    case h_7 => rfl
    case h_6 =>
      refine isMalformed_orUnsupported fun c decoded => ?_
      obtain ⟨children, -, decoded⟩ := Except.bind_eq_ok.mp decoded
      obtain ⟨connective, -, decoded⟩ := Except.bind_eq_ok.mp decoded
      obtain rfl := Except.ok.inj decoded
      rfl
    all_goals
      refine isMalformed_orUnsupported fun c decoded => ?_
      obtain ⟨inner, -, rfl⟩ := Except.map_eq_ok.mp decoded
      rfl

/-- The fields of a saved condition need as many levels as the document from which it was loaded, so with the object
around them they need one more. -/
theorem readable_fields {n : Nat} {document : Json} (readable : document.Readable n) :
    Fields.Readable n (ofJson document).fields := by
  induction n using Nat.strongRecOn generalizing document with
  | ind n ih =>
      unfold ofJson
      split
      case h_2 => exact readable_unsupportedFields n none .tagMissing
      case h_1 fields =>
        obtain ⟨n, rfl, each⟩ := readable.exists_object
        unfold ofFields
        split
        case h_1 => exact readable_unsupportedFields _ none _
        case h_7 => exact readable_unsupportedFields _ _ _
        case h_6 =>
          refine readable_orUnsupported fun c decoded => ?_
          obtain ⟨children, read, decoded⟩ := Except.bind_eq_ok.mp decoded
          obtain ⟨connective, -, decoded⟩ := Except.bind_eq_ok.mp decoded
          obtain rfl := Except.ok.inj decoded
          obtain ⟨items, same, below⟩ := childrenIn_eq_ok read
          have saved := readable_below each below fun k smaller item readable => ih k (by omega) readable
          rw [same]
          simp only [Fields.Readable, Condition.fields, childItems_eq, ofItems_eq, List.map_map, List.forall_mem_cons]
          exact ⟨readable_text _, readable_text _, saved, List.forall_mem_nil _⟩
        all_goals
          refine readable_orUnsupported fun c decoded => ?_
          obtain ⟨inner, -, rfl⟩ := Except.map_eq_ok.mp decoded
          exact readable_leaf rfl n

end Condition

namespace Action

def isMalformed : Action → Bool
  | unsupported none (.notJson _) => true
  | _ => false

theorem isMalformed_orUnsupported {kind : String} {decoded : Except Defect Action}
    (fine : ∀ action, decoded = .ok action → action.isMalformed = false) :
    (orUnsupported kind decoded).isMalformed = false := by
  cases decoded with
  | ok action => exact fine action rfl
  | error defect => rfl

theorem isMalformed_ofJson (document : Json) : (ofJson document).isMalformed = false := by
  unfold ofJson
  split
  case h_2 => rfl
  case h_1 fields =>
    unfold ofFields
    split
    case h_1 defect nameless => obtain rfl | rfl := kindOf_eq_error nameless <;> rfl
    case h_7 => rfl
    all_goals
      refine isMalformed_orUnsupported fun action decoded => ?_
    case h_2 =>
      obtain ⟨body, -, same⟩ := Except.bind_eq_ok.mp decoded
      exact Except.ok.inj same ▸ rfl
    case h_3 =>
      obtain ⟨message, -, decoded⟩ := Except.bind_eq_ok.mp decoded
      obtain ⟨channel, -, same⟩ := Except.bind_eq_ok.mp decoded
      exact Except.ok.inj same ▸ rfl
    case h_5 =>
      obtain ⟨seconds, -, same⟩ := Except.bind_eq_ok.mp decoded
      exact Except.ok.inj same ▸ rfl
    all_goals
      obtain ⟨inner, -, rfl⟩ := Except.map_eq_ok.mp decoded
      rfl

theorem readable_orUnsupported {n : Nat} {kind : String} {decoded : Except Defect Action}
    (fine : ∀ action, decoded = .ok action → Fields.Readable n action.fields) :
    Fields.Readable n (orUnsupported kind decoded).fields := by
  cases decoded with
  | ok action => exact fine action rfl
  | error defect => exact readable_unsupportedFields n _ defect

section Leaves

variable {n : Nat} {fields : Fields}

/-- A command is the default, which is empty, or stands in the document. -/
theorem readable_command {action : Action} (each : fields.Readable n) (decoded : commandOfFields fields = .ok action) :
    Fields.Readable (n + 1) action.fields := by
  obtain ⟨body, read, same⟩ := Except.bind_eq_ok.mp decoded
  obtain rfl := Except.ok.inj same
  have body : (Json.object body).Readable (n + 1) := by
    obtain rfl | ⟨json, present, taken⟩ := Fields.readOr_eq_ok read
    · exact readable_object.mpr fun _ member => absurd member List.not_mem_nil
    · have given := (readable_of_get? each present).mono (Nat.le_succ n)
      cases json with
      | object entries => exact Except.ok.inj taken ▸ given
      | _ => cases taken
  simp only [Fields.Readable, Action.fields, List.forall_mem_cons]
  exact ⟨readable_text _, body, List.forall_mem_nil _⟩

/-- A payload is the default, which is empty, or stands in the document. -/
theorem readable_webhook {hook : Webhook} (each : fields.Readable n) (decoded : Webhook.ofFields fields = .ok hook) :
    Fields.Readable (n + 1) (webhook hook).fields := by
  obtain ⟨headers, -, decoded⟩ := Except.bind_eq_ok.mp decoded
  obtain ⟨method, -, decoded⟩ := Except.bind_eq_ok.mp decoded
  obtain ⟨payload, read, decoded⟩ := Except.bind_eq_ok.mp decoded
  obtain ⟨timeoutSeconds, -, decoded⟩ := Except.bind_eq_ok.mp decoded
  obtain ⟨given, -, decoded⟩ := Except.bind_eq_ok.mp decoded
  obtain ⟨url, -, decoded⟩ := Except.bind_eq_ok.mp decoded
  obtain rfl := Except.ok.inj decoded
  have payload : payload.Readable (n + 1) := by
    obtain rfl | ⟨json, present, taken⟩ := Fields.readOr_eq_ok read
    · exact readable_object.mpr fun _ member => absurd member List.not_mem_nil
    · exact Except.ok.inj taken ▸ (readable_of_get? each present).mono (Nat.le_succ n)
  have timeout : (Json.whole timeoutSeconds.toNat).Readable (n + 1) := readable_natural timeoutSeconds.toNat_lt
  simp only [Fields.Readable, Action.fields, Webhook.fields, List.forall_mem_cons]
  refine ⟨readable_text _, readable_text _, readable_text _, payload, ?_, timeout, List.forall_mem_nil _⟩
  refine readable_object.mpr fun entry member => ?_
  obtain ⟨header, -, rfl⟩ := List.mem_map.mp member
  exact readable_text header.2

end Leaves

/-- The fields of a saved action need as many levels as the document from which it was loaded, so with the object
around them they need one more. -/
theorem readable_fields {n : Nat} {document : Json} (readable : document.Readable n) :
    Fields.Readable n (ofJson document).fields := by
  induction n using Nat.strongRecOn generalizing document with
  | ind n ih =>
      unfold ofJson
      split
      case h_2 => exact readable_unsupportedFields n none .tagMissing
      case h_1 fields =>
        obtain ⟨n, rfl, each⟩ := readable.exists_object
        unfold ofFields
        split
        case h_1 => exact readable_unsupportedFields _ none _
        case h_7 => exact readable_unsupportedFields _ _ _
        case h_2 => exact readable_orUnsupported fun action decoded => readable_command each decoded
        case h_3 =>
          refine readable_orUnsupported fun action decoded => ?_
          obtain ⟨message, -, decoded⟩ := Except.bind_eq_ok.mp decoded
          obtain ⟨channel, -, same⟩ := Except.bind_eq_ok.mp decoded
          obtain rfl := Except.ok.inj same
          simp only [Fields.Readable, Action.fields, List.forall_mem_cons]
          exact ⟨readable_text _, readable_text _, readable_text _, List.forall_mem_nil _⟩
        case h_4 =>
          refine readable_orUnsupported fun action decoded => ?_
          obtain ⟨hook, fine, rfl⟩ := Except.map_eq_ok.mp decoded
          exact readable_webhook each fine
        case h_5 =>
          refine readable_orUnsupported fun action decoded => ?_
          obtain ⟨seconds, -, same⟩ := Except.bind_eq_ok.mp decoded
          obtain rfl := Except.ok.inj same
          simp only [Fields.Readable, Action.fields, List.forall_mem_cons]
          exact ⟨readable_text _, readable_real _, List.forall_mem_nil _⟩
        case h_6 =>
          refine readable_orUnsupported fun action decoded => ?_
          obtain ⟨steps, read, rfl⟩ := Except.map_eq_ok.mp decoded
          obtain ⟨items, same, below⟩ := stepsIn_eq_ok read
          have saved := readable_below each below fun k smaller item readable => ih k (by omega) readable
          rw [same]
          simp only [Fields.Readable, Action.fields, stepItems_eq, ofItems_eq, List.map_map, List.forall_mem_cons]
          exact ⟨readable_text _, saved, List.forall_mem_nil _⟩

end Action

theorem Trigger.readable_toJson {n : Nat} {document : Json} (readable : document.Readable n) :
    (Trigger.ofJson document).toJson.Readable (n + 1) := by
  refine readable_object.mpr fun entry member => ?_
  obtain limit | own := List.mem_append.mp member
  · split at limit
    case h_1 =>
      obtain rfl := List.mem_singleton.mp limit
      exact readable_real _
    case h_2 => cases limit
  · exact Condition.readable_fields readable entry own

theorem Action.readable_toJson {n : Nat} {document : Json} (readable : document.Readable n) :
    (Action.ofJson document).toJson.Readable (n + 1) := readable_object.mpr (readable_fields readable)

/-- A text is loaded as a malformed node just when it is not read. -/
theorem Trigger.isMalformed_ofText (s : String) :
    (Trigger.ofText s).condition.isMalformed = (Json.ofText? s).isNone := by
  unfold Trigger.ofText Json.ofText?
  cases Json.read s with
  | ok document => exact Condition.isMalformed_ofJson document
  | error => rfl

theorem Action.isMalformed_ofText (s : String) : (Action.ofText s).isMalformed = (Json.ofText? s).isNone := by
  unfold Action.ofText Json.ofText?
  cases Json.read s with
  | ok document => exact isMalformed_ofJson document
  | error => rfl

theorem isNone_ofText?_toText {json : Json} (inRange : json.InRange) :
    (Json.ofText? json.toText).isNone = decide (depthLimit < json.depth) := by
  rw [ofText?_toText inRange]
  by_cases shallow : json.depth ≤ depthLimit
  · rw [if_pos shallow, decide_eq_false (Nat.not_lt.mpr shallow)]
    rfl
  · rw [if_neg shallow, decide_eq_true (Nat.lt_of_not_le shallow)]
    rfl

/-- A document nested `n` times: an object with one item under `key`, around an object that names only its kind. -/
def nested (key kind leaf : String) : Nat → Json
  | 0 => .object [("type", .text leaf)]
  | n + 1 => .object [(key, .array [nested key kind leaf n]), ("type", .text kind)]

theorem depth_nested (key kind leaf : String) (n : Nat) : (nested key kind leaf n).depth = 2 * n + 1 := by
  induction n with
  | zero => rfl
  | succ n ih =>
      simp only [nested, depth, entriesDepth, itemsDepth, ih]
      omega

theorem inRange_nested (key kind leaf : String) (n : Nat) : (nested key kind leaf n).InRange := by
  induction n with
  | zero => exact .object (List.forall_mem_singleton.mpr (.text leaf))
  | succ n ih =>
      have items : (Json.array [nested key kind leaf n]).InRange := .array (List.forall_mem_singleton.mpr ih)
      exact .object (List.forall_mem_cons.mpr ⟨items, List.forall_mem_singleton.mpr (.text kind)⟩)

theorem reread_nested {key : String} (sorted : key < "type") (kind leaf : String) (n : Nat) :
    (nested key kind leaf n).reread = nested key kind leaf n := by
  induction n with
  | zero => rfl
  | succ n ih =>
      have other : ¬"type" < key := fun less => absurd (String.lt_trans sorted less) (String.lt_irrefl key)
      have differs : "type" ≠ key := fun same => String.lt_irrefl key (same ▸ sorted)
      simp only [nested, reread, rereadEntries, rereadItems, ih, Fields.sorted, List.foldl_cons, List.foldl_nil,
        Fields.insert, if_neg other, if_neg differs]

theorem ofText?_nested {key : String} (sorted : key < "type") (kind leaf : String) {n : Nat} (shallow : n < 64) :
    Json.ofText? (nested key kind leaf n).toText = some (nested key kind leaf n) := by
  have depth : (nested key kind leaf n).depth ≤ depthLimit := by
    have limit : depthLimit = 127 := rfl
    rw [depth_nested]
    omega
  rw [ofText?_toText (inRange_nested key kind leaf n), if_pos depth, reread_nested sorted]

/-- Composites inside each other, the innermost of which has no list of conditions. -/
def nestedTrigger : Nat → Json := nested "conditions" "composite" "composite"

def nestedAction : Nat → Json := nested "actions" "sequence" "device_command"

theorem ofJson_nestedTrigger (n : Nat) :
    Condition.ofJson (nestedTrigger (n + 1)) = .composite .and [⟨none, Condition.ofJson (nestedTrigger n)⟩] := by
  cases n <;> rfl

theorem ofJson_nestedAction (n : Nat) :
    Action.ofJson (nestedAction (n + 1)) = .sequence [⟨none, Action.ofJson (nestedAction n)⟩] := by
  cases n <;> rfl

theorem depth_saved_nestedTrigger (n : Nat) : (Trigger.ofJson (nestedTrigger n)).toJson.depth = 2 * n + 2 := by
  have fields : entriesDepth (Condition.ofJson (nestedTrigger n)).fields = 2 * n + 1 := by
    induction n with
    | zero => decide
    | succ n ih =>
        simp only [ofJson_nestedTrigger, Condition.fields, Condition.childItems, deviceField, List.nil_append, depth,
          entriesDepth, itemsDepth, ih]
        omega
  have unlimited : Trigger.minIntervalOf (nestedTrigger n) = none := by
    cases n <;> rfl
  simp only [Trigger.toJson, Trigger.ofJson, unlimited, List.nil_append, depth, fields]

theorem depth_saved_nestedAction (n : Nat) : (Action.ofJson (nestedAction n)).toJson.depth = 2 * n + 2 := by
  have fields : entriesDepth (Action.ofJson (nestedAction n)).fields = 2 * n + 1 := by
    induction n with
    | zero => decide
    | succ n ih =>
        simp only [ofJson_nestedAction, Action.fields, Action.stepItems, deviceField, List.nil_append, depth,
          entriesDepth, itemsDepth, ih]
        omega
  simp only [Action.toJson, depth, fields]

theorem ofText?_nestedTrigger {n : Nat} (shallow : n < 64) :
    Json.ofText? (nestedTrigger n).toText = some (nestedTrigger n) := ofText?_nested (by decide) _ _ shallow

theorem ofText?_nestedAction {n : Nat} (shallow : n < 64) :
    Json.ofText? (nestedAction n).toText = some (nestedAction n) := ofText?_nested (by decide) _ _ shallow

/-- What becomes of a nested trigger that is loaded, saved and loaded again. -/
theorem reloaded_nestedTrigger {n : Nat} (shallow : n < 64) :
    (Trigger.ofText (Trigger.ofText (nestedTrigger n).toText).toJson.toText).condition.isMalformed =
      decide (depthLimit < 2 * n + 2) := by
  have loaded : Trigger.ofText (nestedTrigger n).toText = Trigger.ofJson (nestedTrigger n) := by
    simp only [Trigger.ofText, Except.toOption_eq_some.mp (ofText?_nestedTrigger shallow)]
  have readable : (nestedTrigger n).Readable (nestedTrigger n).depth := ⟨inRange_nested _ _ _ n, Nat.le_refl _⟩
  rw [loaded, Trigger.isMalformed_ofText, isNone_ofText?_toText (Trigger.readable_toJson readable).inRange,
    depth_saved_nestedTrigger]

theorem reloaded_nestedAction {n : Nat} (shallow : n < 64) :
    (Action.ofText (Action.ofText (nestedAction n).toText).toJson.toText).isMalformed =
      decide (depthLimit < 2 * n + 2) := by
  have loaded : Action.ofText (nestedAction n).toText = Action.ofJson (nestedAction n) := by
    simp only [Action.ofText, Except.toOption_eq_some.mp (ofText?_nestedAction shallow)]
  have readable : (nestedAction n).Readable (nestedAction n).depth := ⟨inRange_nested _ _ _ n, Nat.le_refl _⟩
  rw [loaded, Action.isMalformed_ofText, isNone_ofText?_toText (Action.readable_toJson readable).inRange,
    depth_saved_nestedAction]

/-- A document that is loaded and saved is at most one level deeper, and what was saved is loaded as a malformed node
just when it is too deep to be read, which is all that can be wrong with it. So only the deepest documents that can be
read are ever lost. -/
theorem saving_keeps_readable {s : String} {document : Json} (read : Json.ofText? s = some document) :
    let trigger := (Trigger.ofText s).toJson
    let action := (Action.ofText s).toJson
    document.depth ≤ depthLimit ∧
      (trigger.depth ≤ document.depth + 1 ∧ action.depth ≤ document.depth + 1) ∧
      ((Json.ofText? trigger.toText).isNone = decide (depthLimit < trigger.depth) ∧
        (Json.ofText? action.toText).isNone = decide (depthLimit < action.depth)) ∧
      ((Trigger.ofText trigger.toText).condition.isMalformed = decide (depthLimit < trigger.depth) ∧
        (Action.ofText action.toText).isMalformed = decide (depthLimit < action.depth)) ∧
      (∀ diagnosis, Json.read trigger.toText = .error diagnosis ∨ Json.read action.toText = .error diagnosis →
        diagnosis.breach = .tooDeep) ∧
      (document.depth < depthLimit →
        (Trigger.ofText trigger.toText).condition.isMalformed = false ∧
          (Action.ofText action.toText).isMalformed = false) := by
  intro trigger action
  have readable := readable_of_ofText? read
  have found : Json.read s = .ok document := Except.toOption_eq_some.mp read
  have exactly : document.Readable document.depth := ⟨readable.inRange, Nat.le_refl _⟩
  have ofTrigger : trigger = (Trigger.ofJson document).toJson := by simp only [trigger, Trigger.ofText, found]
  have ofAction : action = (Action.ofJson document).toJson := by simp only [action, Action.ofText, found]
  have savedTrigger : trigger.Readable (document.depth + 1) := ofTrigger ▸ Trigger.readable_toJson exactly
  have savedAction : action.Readable (document.depth + 1) := ofAction ▸ Action.readable_toJson exactly
  have triggerIsNone := isNone_ofText?_toText savedTrigger.inRange
  have actionIsNone := isNone_ofText?_toText savedAction.inRange
  have triggerFails := (Trigger.isMalformed_ofText trigger.toText).trans triggerIsNone
  have actionFails := (Action.isMalformed_ofText action.toText).trans actionIsNone
  refine ⟨readable.depth_le, ⟨savedTrigger.depth_le, savedAction.depth_le⟩, ⟨triggerIsNone, actionIsNone⟩,
    ⟨triggerFails, actionFails⟩, fun diagnosis fails => ?_, fun shallow => ⟨?_, ?_⟩⟩
  · obtain fails | fails := fails
    · exact breach_of_read_toText savedTrigger.inRange fails
    · exact breach_of_read_toText savedAction.inRange fails
  · rw [triggerFails, decide_eq_false (Nat.not_lt.mpr (Nat.le_trans savedTrigger.depth_le shallow))]
  · rw [actionFails, decide_eq_false (Nat.not_lt.mpr (Nat.le_trans savedAction.depth_le shallow))]

theorem saving_keeps_readable_of_nested :
    Json.ofText? (nestedTrigger 62).toText = some (nestedTrigger 62) ∧ (nestedTrigger 62).depth < depthLimit ∧
      (Trigger.ofText (Trigger.ofText (nestedTrigger 62).toText).toJson.toText).condition.isMalformed = false := by
  have read : Json.ofText? (nestedTrigger 62).toText = some (nestedTrigger 62) := ofText?_nestedTrigger (by decide)
  have shallow : (nestedTrigger 62).depth < depthLimit := by
    rw [nestedTrigger, depth_nested]
    decide
  have kept := saving_keeps_readable read
  exact ⟨read, shallow, (kept.2.2.2.2.2 shallow).1⟩

/-- Two documents that are read, and are malformed when they have been loaded, saved and loaded again. -/
theorem saving_loses_deepest :
    Json.ofText? (nestedTrigger 63).toText = some (nestedTrigger 63) ∧
      (Trigger.ofText (Trigger.ofText (nestedTrigger 63).toText).toJson.toText).condition.isMalformed = true ∧
      Json.ofText? (nestedAction 63).toText = some (nestedAction 63) ∧
      (Action.ofText (Action.ofText (nestedAction 63).toText).toJson.toText).isMalformed = true := by
  have tooDeep : decide (depthLimit < 2 * 63 + 2) = true := rfl
  have trigger := reloaded_nestedTrigger (n := 63) (by decide)
  have action := reloaded_nestedAction (n := 63) (by decide)
  exact ⟨ofText?_nestedTrigger (by decide), trigger.trans tooDeep, ofText?_nestedAction (by decide),
    action.trans tooDeep⟩

end DeviceRules
