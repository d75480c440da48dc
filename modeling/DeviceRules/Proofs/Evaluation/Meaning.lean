import DeviceRules.Proofs.Evaluation.ShortCircuit
import Mathlib.Logic.Relation

/-! The boolean meaning of a condition, for which every node is looked at, and its agreement with an evaluation that
stops as soon as the value is decided. The meaning of a composite is that of its connective over the meanings of all
children, so the order of the children is free. -/
namespace DeviceRules

namespace Connective

/-- The value of the connective over all its operands. -/
def combine : Connective → List Bool → Bool
  | and, operands => operands.all id
  | or, operands => operands.any id

theorem combine_of_neutral (c : Connective) {operands : List Bool} (all : ∀ b ∈ operands, b = c.neutral) :
    c.combine operands = c.neutral := by
  cases c with
  | and => exact List.all_eq_true.mpr all
  | or => exact List.any_eq_false.mpr fun b member => by simp [all b member, neutral]

theorem combine_of_deciding (c : Connective) {operands : List Bool} (member : (!c.neutral) ∈ operands) :
    c.combine operands = !c.neutral := by
  cases c with
  | and => exact List.all_eq_false.mpr ⟨_, member, by decide⟩
  | or => exact List.any_eq_true.mpr ⟨_, member, rfl⟩

theorem combine_perm (c : Connective) {operands others : List Bool} (same : operands.Perm others) :
    c.combine operands = c.combine others := by
  cases c with
  | and => exact same.all_eq
  | or => exact same.any_eq

end Connective

/-- The time of day that cannot be read, if there is one; of two it is the first. -/
def TimeCondition.unreadable? : TimeCondition → Option String
  | timeOfDay start stop => [start, stop].find? fun text => (timeOfDay? text).isNone
  | dayOfWeek _ | interval _ _ => none

theorem TimeCondition.holds_of_unreadable {c : TimeCondition} {text : String} (moment : Moment)
    (bad : c.unreadable? = some text) : c.holds moment = .error (.badTimeOfDay text) := by
  cases c with
  | timeOfDay start stop =>
      simp only [unreadable?, List.find?_cons, List.find?_nil] at bad
      cases first : timeOfDay? start with
      | none =>
          simp only [first, Option.isNone_none, Option.some.injEq] at bad
          subst bad
          simp only [holds, readTime, first]
          rfl
      | some early =>
          cases second : timeOfDay? stop with
          | none =>
              simp only [first, second, Option.isNone_none, Option.isNone_some, Option.some.injEq] at bad
              subst bad
              simp only [holds, readTime, first, second]
              rfl
          | some late => simp [first, second] at bad
  | dayOfWeek days | interval minutes lastTrigger => contradiction

theorem TimeCondition.holds_of_readable {c : TimeCondition} (moment : Moment) (good : c.unreadable? = none) :
    ∃ b, c.holds moment = .ok b := by
  cases c with
  | timeOfDay start stop =>
      simp only [unreadable?, List.find?_eq_none, List.forall_mem_cons] at good
      obtain ⟨early, first⟩ := Option.ne_none_iff_exists'.mp (mt Option.isNone_iff_eq_none.mpr good.1)
      obtain ⟨late, second⟩ := Option.ne_none_iff_exists'.mp (mt Option.isNone_iff_eq_none.mpr good.2.1)
      simp only [holds, readTime, first, second]
      exact ⟨_, rfl⟩
  | dayOfWeek days => exact ⟨_, rfl⟩
  | interval minutes lastTrigger =>
      cases last : lastTrigger <|> moment.lastFired with
      | none | some => simp only [holds, last]; exact ⟨_, rfl⟩

namespace Condition

/-- What is wrong with a node by itself, for its device. Nothing is wrong with a composite by itself. -/
def misconfiguration? (device : Option DeviceId) : Condition → Option ConfigurationError
  | threshold _ => if device = none then some (.missingDevice "value_threshold") else none
  | change _ => if device = none then some (.missingDevice "value_change") else none
  | status _ => if device = none then some (.missingDevice "device_status") else none
  | time c => c.unreadable?.map .badTimeOfDay
  | composite _ _ => none
  | unsupported kind defect => some (.unsupportedCondition kind defect)

def query? (moment : Moment) (device : Option DeviceId) : Condition → Option Query
  | threshold c => device.map fun d => .samples d c.dataType (moment.now.windowStart c.windowMinutes) 1
  | change c => device.map fun d => .samples d c.dataType (moment.now.windowStart c.windowMinutes) 2
  | status _ => device.map .status
  | time _ | composite _ _ | unsupported _ _ => none

/-- A node that is wrong by itself is not looked into. -/
theorem evaluate_of_misconfigured {c : Condition} {telemetry : Telemetry} {moment : Moment} {device : Option DeviceId}
    {error : ConfigurationError} (wrong : c.misconfiguration? device = some error) :
    c.evaluate telemetry moment device = misconfigured error := by
  cases c with
  | threshold c | change c | status expected =>
      cases device with
      | none => exact congrArg misconfigured (Option.some.inj wrong)
      | some d => simp [misconfiguration?] at wrong
  | time c =>
      obtain ⟨text, bad, rfl⟩ := Option.map_eq_some_iff.mp wrong
      simp [evaluate, c.holds_of_unreadable moment bad]
  | composite connective children => contradiction
  | unsupported kind defect => exact congrArg misconfigured (Option.some.inj wrong)

mutual

/-- Whether a condition is true for a device, whatever its parts cost. A leaf that is misconfigured, or about which
the store does not answer, is false. -/
def means (telemetry : Telemetry) (moment : Moment) (device : Option DeviceId) : Condition → Bool
  | threshold c =>
      (device.bind fun d => (telemetry.samples d c.dataType (moment.now.windowStart c.windowMinutes) 1).toOption).any
        (judgeThreshold c)
  | change c =>
      (device.bind fun d => (telemetry.samples d c.dataType (moment.now.windowStart c.windowMinutes) 2).toOption).any
        (judgeChange c)
  | time c => (c.holds moment).toOption == some true
  | status expected => (device.bind fun d => (telemetry.status d).toOption) == some (some expected)
  | composite connective children => connective.combine (meanings telemetry moment children)
  | unsupported _ _ => false

def meanings (telemetry : Telemetry) (moment : Moment) : List (Addressed Condition) → List Bool
  | [] => []
  | ⟨device, node⟩ :: rest =>
      node.means telemetry moment (device.bind DeviceId.target?) :: meanings telemetry moment rest

end

end Condition

def Addressed.means (telemetry : Telemetry) (moment : Moment) (child : Addressed Condition) : Bool :=
  child.node.means telemetry moment child.target?

namespace Condition

variable {telemetry : Telemetry} {moment : Moment} {device : Option DeviceId}

theorem meanings_eq_map (children : List (Addressed Condition)) :
    meanings telemetry moment children = children.map (Addressed.means telemetry moment) := by
  induction children with
  | nil => rfl
  | cons child rest ih => rw [List.map_cons, ← ih]; rfl

theorem means_of_misconfigured (c : Condition) (wrong : c.misconfiguration? device ≠ none) :
    c.means telemetry moment device = false := by
  cases c with
  | threshold c | change c | status expected =>
      cases device with
      | none => rfl
      | some d => simp [misconfiguration?] at wrong
  | time c =>
      obtain ⟨text, bad⟩ : ∃ text, c.unreadable? = some text := by
        simpa [misconfiguration?, Option.ne_none_iff_exists'] using wrong
      simp [means, c.holds_of_unreadable moment bad, Except.toOption]
  | composite connective children => exact absurd rfl wrong
  | unsupported kind defect => rfl

/-- All that the evaluation of a leaf can be. Only a question to the store can end it with an outage. -/
inductive LeafRun (telemetry : Telemetry) (moment : Moment) (device : Option DeviceId) (c : Condition) :
    Traced (Except Fault Bool) → Prop
  | misconfigured {error} (wrong : c.misconfiguration? device = some error)
      (silent : c.query? moment device = none) : LeafRun telemetry moment device c (misconfigured error)
  | settled {b} (right : c.misconfiguration? device = none) (silent : c.query? moment device = none)
      (meant : c.means telemetry moment device = b) : LeafRun telemetry moment device c ⟨.ok b, []⟩
  | answered {query b} (right : c.misconfiguration? device = none) (asks : c.query? moment device = some query)
      (found : ¬ telemetry.Fails query) (meant : c.means telemetry moment device = b) :
      LeafRun telemetry moment device c ⟨.ok b, [.asked query]⟩
  | failed {query outage} (asks : c.query? moment device = some query) (down : telemetry.Fails query) :
      LeafRun telemetry moment device c ⟨.error (.outage outage), [.asked query]⟩

theorem evaluate_leaf {c : Condition} (leaf : c.isLeaf = true) (telemetry : Telemetry) (moment : Moment)
    (device : Option DeviceId) : LeafRun telemetry moment device c (c.evaluate telemetry moment device) := by
  cases c with
  | threshold c | change c =>
      cases device with
      | none => exact .misconfigured rfl rfl
      | some d =>
          simp only [evaluate, judgeSamples]
          split
          · rename_i samples found
            exact .answered rfl rfl (by simp [Telemetry.Fails, found]) (by simp [means, found, Except.toOption])
          · rename_i outage failed
            exact .failed rfl ⟨outage, failed⟩
  | time c =>
      cases readable : c.unreadable? with
      | none =>
          obtain ⟨b, value⟩ := c.holds_of_readable moment readable
          simp only [evaluate, value]
          exact .settled (by simp [misconfiguration?, readable]) rfl (by simp [means, value, Except.toOption])
      | some text =>
          simp only [evaluate, c.holds_of_unreadable moment readable]
          exact .misconfigured (by simp [misconfiguration?, readable]) rfl
  | status expected =>
      cases device with
      | none => exact .misconfigured rfl rfl
      | some d =>
          simp only [evaluate, judgeStatus]
          split
          · rename_i known found
            exact .answered rfl rfl (by simp [Telemetry.Fails, found]) (by simp [means, found, Except.toOption])
          · rename_i outage failed
            exact .failed rfl ⟨outage, failed⟩
  | composite connective children => contradiction
  | unsupported kind defect => exact .misconfigured rfl rfl

/-- The value of an evaluation in which every query is answered. -/
def settledValue (telemetry : Telemetry) (moment : Moment) (device : Option DeviceId) (c : Condition) :
    Except Fault Bool :=
  match c.misconfiguration? device with
  | some error => .error (.configuration error)
  | none => .ok (c.means telemetry moment device)

theorem judge_of_settled {child : Addressed Condition}
    (settled : (child.node.evaluate telemetry moment child.target?).value =
      child.node.settledValue telemetry moment child.target?) :
    (child.judge telemetry moment).value = .ok (child.means telemetry moment) := by
  unfold settledValue at settled
  split at settled
  · rename_i error wrong
    have false_ : child.means telemetry moment = false :=
      means_of_misconfigured child.node (by rw [wrong]; exact Option.some_ne_none error)
    rw [Addressed.judge, forgive_of_configuration settled, false_]
  · rw [Addressed.judge, forgive_of_ok settled, settled]
    rfl

theorem settle_of_judged {connective : Connective} {children : List (Addressed Condition)}
    (judged : ∀ child ∈ children, (child.judge telemetry moment).value = .ok (child.means telemetry moment)) :
    (settle telemetry moment connective children).value =
      .ok (connective.combine (meanings telemetry moment children)) := by
  rw [meanings_eq_map]
  rcases settle_cases telemetry moment connective children with
    ⟨passed, walk⟩ | ⟨earlier, child, later, split, _, stops, walk⟩
  · have neutral : ∀ b ∈ children.map (Addressed.means telemetry moment), b = connective.neutral := by
      intro b member
      obtain ⟨child, inside, rfl⟩ := List.mem_map.mp member
      exact Except.ok.inj ((judged child inside).symm.trans (passed child inside))
    rw [walk, connective.combine_of_neutral neutral]
  · have inside : child ∈ children := by simp [split]
    have deciding : child.means telemetry moment = !connective.neutral :=
      connective.eq_not_neutral fun same => stops ((judged child inside).trans (congrArg _ same))
    have member : (!connective.neutral) ∈ children.map (Addressed.means telemetry moment) :=
      List.mem_map.mpr ⟨child, inside, deciding⟩
    rw [walk, judged child inside, deciding, connective.combine_of_deciding member]

theorem evaluate_value (reliable : telemetry.Reliable) (moment : Moment) (c : Condition) : ∀ device : Option DeviceId,
    (c.evaluate telemetry moment device).value = c.settledValue telemetry moment device := by
  induction c using Condition.leafInduction with
  | leaf c leaf =>
      intro device
      have run := evaluate_leaf leaf telemetry moment device
      generalize c.evaluate telemetry moment device = traced at run ⊢
      cases run with
      | misconfigured wrong => simp [settledValue, wrong, misconfigured]
      | settled right _ meant | answered right _ _ meant => simp [settledValue, right, meant]
      | failed _ down => exact absurd down (reliable _)
  | composite connective children ih =>
      intro device
      exact settle_of_judged fun child inside => judge_of_settled (ih child inside child.target?)

/-- The children of one composite change places. -/
inductive Permutes : Condition → Condition → Prop
  | here {connective children others} (same : children.Perm others) :
      Permutes (composite connective children) (composite connective others)
  | inside {connective earlier later device node other} (inner : Permutes node other) :
      Permutes (composite connective (earlier ++ ⟨device, node⟩ :: later))
        (composite connective (earlier ++ ⟨device, other⟩ :: later))

theorem Permutes.means_eq {c other : Condition} (permutes : Permutes c other) (telemetry : Telemetry)
    (moment : Moment) : ∀ device : Option DeviceId,
    c.means telemetry moment device = other.means telemetry moment device := by
  induction permutes with
  | here same =>
      intro device
      simp only [means, meanings_eq_map]
      exact Connective.combine_perm _ (same.map _)
  | inside inner ih =>
      intro device
      simp only [means, meanings_eq_map, List.map_append, List.map_cons, Addressed.means, ih]
      rfl

theorem Permutes.settledValue_eq {c other : Condition} (permutes : Permutes c other) (device : Option DeviceId) :
    c.settledValue telemetry moment device = other.settledValue telemetry moment device := by
  have same := permutes.means_eq telemetry moment device
  cases permutes with
  | here | inside => exact congrArg Except.ok same

/-- Stopping early never shows in the value: an evaluation comes to the meaning of the tree, and to nothing else but
the misconfiguration of its root. So the children of any composite may change places. -/
theorem evaluate_agrees_with_meaning (reliable : telemetry.Reliable) (moment : Moment) :
    (∀ (c : Condition) (device : Option DeviceId) (b : Bool),
      (c.evaluate telemetry moment device).value = .ok b ↔
        c.misconfiguration? device = none ∧ c.means telemetry moment device = b) ∧
    (∀ (c : Condition) (device : Option DeviceId) (error : ConfigurationError),
      (c.evaluate telemetry moment device).value = .error (.configuration error) ↔
        c.misconfiguration? device = some error) ∧
    (∀ (c : Condition) (device : Option DeviceId) (fault : Fault),
      (c.evaluate telemetry moment device).value = .error fault → ∃ error, fault = .configuration error) ∧
    (∀ (connective : Connective) (children : List (Addressed Condition)) (device : Option DeviceId),
      ∃ b, ((composite connective children).evaluate telemetry moment device).value = .ok b) ∧
    (∀ (children : List (Addressed Condition)) (device : Option DeviceId),
      ((composite .and children).evaluate telemetry moment device).value = .ok true ↔
        ∀ child ∈ children, child.means telemetry moment = true) ∧
    (∀ (children : List (Addressed Condition)) (device : Option DeviceId),
      ((composite .or children).evaluate telemetry moment device).value = .ok true ↔
        ∃ child ∈ children, child.means telemetry moment = true) ∧
    (∀ child : Addressed Condition, child.node.misconfiguration? child.target? ≠ none →
      child.means telemetry moment = false) ∧
    ∀ (c other : Condition) (device : Option DeviceId), Relation.ReflTransGen Permutes c other →
      (c.evaluate telemetry moment device).value = (other.evaluate telemetry moment device).value := by
  have value := evaluate_value reliable moment
  refine ⟨?_, ?_, ?_, ?_, ?_, ?_, fun child => means_of_misconfigured child.node, ?_⟩
  · intro c device b
    rw [value, settledValue]
    cases c.misconfiguration? device <;> simp
  · intro c device error
    rw [value, settledValue]
    cases c.misconfiguration? device <;> simp
  · intro c device fault failed
    rw [value, settledValue] at failed
    split at failed
    · exact ⟨_, (Except.error.inj failed).symm⟩
    · contradiction
  · exact fun connective children device => ⟨_, value (composite connective children) device⟩
  · intro children device
    rw [value]
    simp [settledValue, misconfiguration?, means, meanings_eq_map, Connective.combine]
  · intro children device
    rw [value]
    simp [settledValue, misconfiguration?, means, meanings_eq_map, Connective.combine]
  · intro c other device permuted
    rw [value, value]
    induction permuted with
    | refl => rfl
    | tail _ last ih => exact ih.trans (last.settledValue_eq device)

/-- A lit hall and either of two leaves, of which one is misconfigured and the other true; the order is free. -/
theorem evaluate_agrees_with_meaning_of_lit_hall :
    let telemetry := (TelemetryLog.empty.setStatus ⟨"hall"⟩ "on").telemetry
    let moment : Moment := ⟨.epoch, ⟨0⟩, none⟩
    let hall : Addressed Condition := ⟨some ⟨"hall"⟩, status "on"⟩
    let either : Addressed Condition :=
      ⟨none, composite .or [⟨some ⟨" "⟩, status "on"⟩, ⟨none, time (.dayOfWeek [3])⟩]⟩
    telemetry.Reliable ∧
    ((composite .and [hall, either]).evaluate telemetry moment none).value = .ok true ∧
    ((composite .and [either, hall]).evaluate telemetry moment none).value = .ok true := by
  intro telemetry moment hall either
  have reliable : telemetry.Reliable := TelemetryLog.telemetry_reliable _
  obtain ⟨value, _, _, _, _, _, _, permuted⟩ := evaluate_agrees_with_meaning reliable moment
  have first := (value (composite .and [hall, either]) none true).mpr ⟨rfl, by decide⟩
  refine ⟨reliable, first, ?_⟩
  rw [← first]
  exact (permuted _ _ none (.single (.here (.swap _ _ _)))).symm

end Condition

end DeviceRules
