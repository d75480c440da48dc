import DeviceRules.Proofs.Engine.History
import DeviceRules.Proofs.Evaluation.Meaning
import DeviceRules.Proofs.Execution.Leaves
import DeviceRules.Simulation.World

/-! What a tick does to the outside. Each rule of the loaded list has its turn in the scene that the turns before it
leave. The tick asks just the questions of the conditions that it judges and attempts just the effects of the actions
of the rules that fire, each once and in their order. -/
namespace DeviceRules

variable {σ α β : Type}

def Outcome.queries (outcome : Outcome σ α) : List Query := outcome.events.filterMap Event.query?

theorem flatMap_filter (keep : α → Bool) (f : α → List β) (items : List α) :
    (items.filter keep).flatMap f = items.flatMap fun item => if keep item then f item else [] := by
  induction items with
  | nil => rfl
  | cons item rest ih => cases kept : keep item <;> simp [kept, ih]

theorem Condition.evaluate_attempts_nothing (telemetry : Telemetry) (moment : Moment) (c : Condition) :
    ∀ device : Option DeviceId, ∀ event ∈ (c.evaluate telemetry moment device).events, event.effect? = none := by
  induction c using Condition.leafInduction with
  | leaf c leaf =>
      intro device
      have run := evaluate_leaf leaf telemetry moment device
      generalize c.evaluate telemetry moment device = traced at run ⊢
      cases run <;> simp [misconfigured, Event.effect?]
  | composite connective children ih =>
      intro device
      have judged : ∀ child ∈ children, ∀ event ∈ (child.judge telemetry moment).events, event.effect? = none := by
        intro child inside event member
        unfold Addressed.judge forgive at member
        split at member
        · rcases List.mem_append.mp member with asked | note
          · exact ih child inside child.target? event asked
          · rw [List.mem_singleton.mp note]
            rfl
        · exact ih child inside child.target? event member
      simp only [evaluate]
      rcases settle_cases telemetry moment connective children with
        ⟨_, walk⟩ | ⟨earlier, child, later, split, _, _, walk⟩
      · rw [walk]
        intro event member
        obtain ⟨child, inside, reported⟩ := List.mem_flatMap.mp member
        exact judged child inside event reported
      · rw [walk]
        intro event member
        obtain ⟨e, inside, reported⟩ := List.mem_flatMap.mp member
        refine judged e ?_ event reported
        rw [split, ← List.singleton_append, ← List.append_assoc]
        exact List.mem_append_left later inside

theorem Event.query?_of_report {event : Event} (report : event.isOwn = false) : event.query? = none := by
  cases event with
  | asked query => contradiction
  | _ => rfl

namespace Surroundings

variable (s : Surroundings σ)

theorem perform_asks_nothing (effect : Effect) (world : σ) :
    ∀ event ∈ (s.perform effect world).events, event.query? = none := by
  cases effect with
  | publish device command =>
      have quiet : ∀ event ∈ (s.publish device command world).events, event.query? = none :=
        fun event member => Event.query?_of_report (s.publish_reports device command world event member)
      simp only [perform]
      split <;> simpa [Event.query?, or_imp, forall_and] using quiet
  | request request =>
      have quiet : ∀ event ∈ (s.send request world).events, event.query? = none :=
        fun event member => Event.query?_of_report (s.send_reports request world event member)
      simp only [perform]
      split
      · split <;> simpa [Event.query?, or_imp, forall_and] using quiet
      · simpa [Event.query?] using quiet
  | notify message | wait duration => simp [perform, Event.query?]

theorem executeSteps_asks_nothing {steps : List (Addressed Action)}
    (each : ∀ step ∈ steps, ∀ (device : Option DeviceId) (world : σ),
      ∀ event ∈ (s.execute device step.node world).events, event.query? = none) :
    ∀ (index : Nat) (world : σ), ∀ event ∈ (s.executeSteps index steps world).events, event.query? = none := by
  induction steps with
  | nil => simp [executeSteps]
  | cons step rest ih =>
      intro index world event member
      obtain ⟨here, others⟩ := List.forall_mem_cons.mp each
      simp only [executeSteps] at member
      split at member
      · rcases List.mem_append.mp member with own | later
        · exact here _ world event own
        · exact ih others _ _ event later
      · rcases List.mem_append.mp member with own | later
        · exact here _ world event own
        · rcases List.mem_cons.mp later with rfl | later
          · rfl
          · exact ih others _ _ event later

theorem execute_leaf_asks_nothing {action : Action} (leaf : action.isLeaf = true) (device : Option DeviceId)
    (world : σ) : ∀ event ∈ (s.execute device action world).events, event.query? = none := by
  rcases s.execute_leaf leaf device world with ⟨effect, _, run⟩ | ⟨_, error, run⟩
  · rw [run]
    exact s.perform_asks_nothing effect world
  · simp [run, decline]

theorem execute_asks_nothing (action : Action) : ∀ (device : Option DeviceId) (world : σ),
    ∀ event ∈ (s.execute device action world).events, event.query? = none := by
  induction action using Action.nodeInduction with
  | sequence steps ih =>
      intro device world
      have run := s.executeSteps_asks_nothing ih 0 world
      simp only [execute]
      split <;> exact run
  | _ => exact s.execute_leaf_asks_nothing rfl

end Surroundings

/-- A rule of a list, with the scene that its turn finds. -/
structure Entry (σ : Type) where
  rule : Rule
  scene : Scene σ

namespace Surroundings

variable (s : Surroundings σ) (settings : EngineSettings)

/-- Whether the condition of an entry is evaluated: the rule is active and due. -/
def judges (entry : Entry σ) : Bool := entry.rule.active && s.due settings entry.rule entry.scene

/-- Whether an entry fires: it is judged, and its condition holds. -/
def fires (entry : Entry σ) : Bool :=
  s.judges settings entry && (s.judgement entry.rule entry.scene).value.toOption == some true

def dispatch (entry : Entry σ) : Outcome σ (Except Fault Unit) :=
  s.execute entry.rule.actionDevice.target? entry.rule.action (s.enter entry.scene).world

/-- The instant noted for an entry that fires: what the clock shows after its action. -/
def noted (entry : Entry σ) : Instant := s.now (s.elapse (s.dispatch entry).world)

/-- The scene that an entry leaves. A rule that is not active has no turn. -/
def leave (entry : Entry σ) : Scene σ :=
  if entry.rule.active then (s.consider settings entry.rule entry.scene).world else entry.scene

def afterTurns (rules : List Rule) (scene : Scene σ) : Scene σ :=
  rules.foldl (fun scene rule => s.leave settings ⟨rule, scene⟩) scene

def entries : List Rule → Scene σ → List (Entry σ)
  | [], _ => []
  | rule :: rest, scene => ⟨rule, scene⟩ :: entries rest (s.leave settings ⟨rule, scene⟩)

theorem entries_append (before rest : List Rule) : ∀ scene : Scene σ,
    s.entries settings (before ++ rest) scene =
      s.entries settings before scene ++ s.entries settings rest (s.afterTurns settings before scene) := by
  induction before with
  | nil => exact fun _ => rfl
  | cons rule before ih => exact fun scene => congrArg (_ :: ·) (ih _)

variable {s settings} {entry : Entry σ}

theorem fires_iff : s.fires settings entry = true ↔
    entry.rule.active = true ∧ s.due settings entry.rule entry.scene = true ∧
      (s.judgement entry.rule entry.scene).value = .ok true := by
  cases judged : (s.judgement entry.rule entry.scene).value <;>
    simp [fires, judges, judged, Except.toOption, and_assoc]

theorem consider_of_fires (fires : s.fires settings entry = true) :
    s.consider settings entry.rule entry.scene =
      let run := s.fire entry.rule (s.enter entry.scene)
      ⟨run.value, (s.judgement entry.rule entry.scene).events ++ run.events, run.world⟩ := by
  obtain ⟨_, due, holds⟩ := fires_iff.mp fires
  rw [consider_of_due due, holds]

theorem leave_of_fires (fires : s.fires settings entry = true) :
    s.leave settings entry =
      ⟨entry.scene.fired.record entry.rule.id (s.noted entry), s.elapse (s.dispatch entry).world⟩ := by
  rw [leave, if_pos (fires_iff.mp fires).1, consider_of_fires fires]
  rfl

/-- An active rule that does not fire only lets the clock go on. -/
theorem leave_of_silent (silent : s.fires settings entry = false) :
    s.leave settings entry = if entry.rule.active then s.enter entry.scene else entry.scene := by
  unfold leave
  split
  · rename_i active
    rcases s.consider_cases settings entry.rule entry.scene with ⟨due, holds, _⟩ | ⟨_, _, world⟩
    · rw [fires_iff.mpr ⟨active, due, holds⟩] at silent
      contradiction
    · exact world
  · rfl

/-- No active rule is forgotten when a tick begins. -/
theorem opened_lastFired {active : List Rule} {rule : Rule} {scene : Scene σ} (member : rule ∈ active) :
    (opened settings active scene).fired.lastFired rule.id = scene.fired.lastFired rule.id := by
  simp only [opened]
  split
  · rw [FireState.lastFired_retain, if_pos (List.contains_iff_mem.mpr (List.mem_map_of_mem member))]
  · rfl

section Turn

variable (s : Surroundings σ) (rule : Rule) (scene : Scene σ)

theorem judgement_effects : (s.judgement rule scene).events.filterMap Event.effect? = [] :=
  List.filterMap_eq_nil_iff.mpr (Condition.evaluate_attempts_nothing _ _ _ _)

theorem fire_effects : (s.fire rule scene).effects =
    (s.execute rule.actionDevice.target? rule.action scene.world).effects := by
  simp only [fire, Outcome.effects]
  cases (s.execute rule.actionDevice.target? rule.action scene.world).value <;>
    simp [failureEvent, Event.effect?, List.filterMap_cons]

theorem fire_queries : (s.fire rule scene).queries = [] := by
  have acted : (s.execute rule.actionDevice.target? rule.action scene.world).events.filterMap Event.query? = [] :=
    List.filterMap_eq_nil_iff.mpr (s.execute_asks_nothing _ _ _)
  simp only [fire, Outcome.queries]
  cases (s.execute rule.actionDevice.target? rule.action scene.world).value <;>
    simp only [failureEvent, Event.query?, List.cons_append, List.filterMap_cons, List.filterMap_append, acted,
      List.filterMap_nil, List.append_nil]

variable (settings : EngineSettings)

/-- A turn attempts what the action does if it fires, and nothing otherwise. -/
theorem consider_effects : (s.consider settings rule scene).effects =
    if (s.consider settings rule scene).value.isFired then
      (s.execute rule.actionDevice.target? rule.action (s.enter scene).world).effects
    else [] := by
  have judged := s.judgement_effects rule scene
  cases due : s.due settings rule scene with
  | false => simp [consider_of_not_due due, Verdict.isFired, Outcome.effects]
  | true =>
      rw [consider_of_due due]
      cases (s.judgement rule scene).value with
      | error fault =>
          cases configuration : fault.isConfiguration <;>
            simp [configuration, judged, Verdict.isFired, Outcome.effects, Event.effect?]
      | ok holds =>
          cases holds with
          | false => simp [judged, Verdict.isFired, Outcome.effects]
          | true =>
              have acted := s.fire_effects rule (s.enter scene)
              simpa [fire, judged, Verdict.isFired, Outcome.effects] using acted

/-- A turn asks what the condition asks if it is due, and nothing otherwise. -/
theorem consider_queries : (s.consider settings rule scene).queries =
    if s.due settings rule scene then (s.judgement rule scene).queries else [] := by
  cases due : s.due settings rule scene with
  | false => simp [consider_of_not_due due, Outcome.queries]
  | true =>
      rw [consider_of_due due]
      cases (s.judgement rule scene).value with
      | error fault => simp [Outcome.queries, Traced.queries, Event.query?]
      | ok holds =>
          cases holds with
          | false => rfl
          | true =>
              have acted := s.fire_queries rule (s.enter scene)
              simpa [Outcome.queries, Traced.queries] using acted

end Turn

theorem consider_isFired (active : entry.rule.active = true) :
    (s.consider settings entry.rule entry.scene).value.isFired = s.fires settings entry := by
  rcases s.consider_cases settings entry.rule entry.scene with ⟨due, holds, fired, _⟩ | ⟨silent, fired, _⟩
  · rw [fired, fires_iff.mpr ⟨active, due, holds⟩]
  · rw [fired]
    refine (Bool.eq_false_iff.mpr fun fires => ?_).symm
    obtain ⟨_, due, holds⟩ := fires_iff.mp fires
    rcases silent with early | fails
    · simp [due] at early
    · exact fails holds

section Pass

variable (s settings)

/-- A pass over the active rules of a list is made of the turns of its active entries. -/
theorem considerAll_entries (rules : List Rule) : ∀ scene : Scene σ,
    s.considerAll settings (rules.filter (·.active)) scene =
      let active := (s.entries settings rules scene).filter (·.rule.active)
      ⟨active.map fun entry => (entry.rule.id, (s.consider settings entry.rule entry.scene).value),
        active.flatMap fun entry => (s.consider settings entry.rule entry.scene).events,
        s.afterTurns settings rules scene⟩ := by
  induction rules with
  | nil => exact fun _ => rfl
  | cons rule rest ih =>
      intro scene
      cases active : rule.active with
      | false =>
          have untouched : s.leave settings ⟨rule, scene⟩ = scene := if_neg (by simp [active])
          simp only [List.filter_cons, active, Bool.false_eq_true, if_false, entries, afterTurns, List.foldl_cons,
            untouched]
          exact ih scene
      | true =>
          have turn : s.leave settings ⟨rule, scene⟩ = (s.consider settings rule scene).world := if_pos active
          simp only [List.filter_cons, active, if_true, entries, afterTurns, List.foldl_cons, considerAll, turn, ih,
            List.map_cons, List.flatMap_cons]

/-- The effects of a pass are those of the actions of the entries that fire. -/
theorem considerAll_effects (rules : List Rule) (scene : Scene σ) :
    (s.considerAll settings (rules.filter (·.active)) scene).effects =
      ((s.entries settings rules scene).filter (s.fires settings)).flatMap fun entry => (s.dispatch entry).effects := by
  rw [considerAll_entries, Outcome.effects, List.filterMap_flatMap, flatMap_filter, flatMap_filter]
  refine congrArg (List.flatMap · _) (funext fun entry => ?_)
  have acted := s.consider_effects entry.rule entry.scene settings
  split
  · rename_i active
    rw [consider_isFired active] at acted
    exact acted
  · rename_i idle
    rw [if_neg fun fires => idle (fires_iff.mp fires).1]

/-- The questions of a pass are those of the conditions that it judges. -/
theorem considerAll_queries (rules : List Rule) (scene : Scene σ) :
    (s.considerAll settings (rules.filter (·.active)) scene).queries =
      ((s.entries settings rules scene).filter (s.judges settings)).flatMap fun entry =>
        (s.judgement entry.rule entry.scene).queries := by
  rw [considerAll_entries, Outcome.queries, List.filterMap_flatMap, flatMap_filter, flatMap_filter]
  refine congrArg (List.flatMap · _) (funext fun entry => ?_)
  have asked := s.consider_queries entry.rule entry.scene settings
  rw [Outcome.queries] at asked
  rw [asked]
  cases active : entry.rule.active <;> simp [judges, active]

theorem considerAll_fired (rules : List Rule) (scene : Scene σ) :
    ((s.considerAll settings (rules.filter (·.active)) scene).value.filter (·.2.isFired)).map (·.1) =
      ((s.entries settings rules scene).filter (s.fires settings)).map (·.rule.id) := by
  rw [considerAll_entries, List.filter_map, List.map_map, List.filter_filter]
  refine congrArg (List.map _) (List.filter_congr fun entry _ => ?_)
  cases active : entry.rule.active with
  | false => simp [fires, judges, active]
  | true => simp [consider_isFired active]

/-- Counting the verdicts of a pass is counting its active entries. -/
theorem considerAll_countP (rules : List Rule) (scene : Scene σ) (p : Verdict → Bool) :
    (s.considerAll settings (rules.filter (·.active)) scene).value.countP (p ·.2) =
      (s.entries settings rules scene).countP fun entry =>
        entry.rule.active && p (s.consider settings entry.rule entry.scene).value := by
  rw [considerAll_entries]
  simp only [List.countP_map, List.countP_filter, Function.comp_def, Bool.and_comm]

/-- What the engine knows of a rule after a pass: the instant noted for its last firing, or what it knew before. -/
theorem afterTurns_lastFired (id : RuleId) (rules : List Rule) : ∀ scene : Scene σ,
    (s.afterTurns settings rules scene).fired.lastFired id =
      ((((s.entries settings rules scene).filter (s.fires settings)).filter (·.rule.id = id)).getLast?.map s.noted).or
        (scene.fired.lastFired id) := by
  induction rules with
  | nil => exact fun _ => rfl
  | cons rule rest ih =>
      intro scene
      simp only [afterTurns, List.foldl_cons, entries]
      rw [← afterTurns, ih, List.filter_cons]
      cases fires : s.fires settings ⟨rule, scene⟩ with
      | false =>
          rw [leave_of_silent fires]
          simp only [Bool.false_eq_true, if_false]
          split <;> rfl
      | true =>
          rw [leave_of_fires fires, FireState.lastFired_record]
          by_cases own : rule.id = id
          · simp [own, List.getLast?_cons]
          · simp [own, Ne.symm own]

end Pass

/-- A tick that loads its rules carries out the action of each entry that fires, once and in the order of the report,
and acts in no other way. An entry fires if it is active, is due in its turn, and its condition holds on what the
entries before it leave; only then is a firing noted for its rule, whatever came of the action. Rules that are not
active or not due ask nothing. -/
theorem tick_dispatches_each_firing_once (s : Surroundings σ) (settings : EngineSettings) (scene : Scene σ)
    {rules : List Rule} (loaded : (s.rules scene.world).value = .ok rules) :
    let opening := opened settings (rules.filter (·.active)) scene
    let fired := (s.entries settings rules opening).filter (s.fires settings)
    let judged := (s.entries settings rules opening).filter (s.judges settings)
    let outcome := s.tick settings scene
    (∃ report, outcome.value = .ok report ∧ report.fired = fired.map (·.rule.id)) ∧
    outcome.effects = fired.flatMap (fun entry => (s.dispatch entry).effects) ∧
    outcome.queries = judged.flatMap (fun entry => (s.judgement entry.rule entry.scene).queries) ∧
    outcome.world = s.afterTurns settings rules opening ∧
    (∀ before rule after, rules = before ++ rule :: after →
      let entry : Entry σ := ⟨rule, s.afterTurns settings before opening⟩
      s.entries settings rules opening =
        s.entries settings before opening ++ entry :: s.entries settings after (s.leave settings entry) ∧
      (entry ∈ fired ↔ rule.active = true ∧ s.due settings rule entry.scene = true ∧
        (s.judgement rule entry.scene).value = .ok true) ∧
      (entry ∈ judged ↔ rule.active = true ∧ s.due settings rule entry.scene = true) ∧
      (entry ∈ fired → s.leave settings entry =
        ⟨entry.scene.fired.record rule.id (s.noted entry), s.elapse (s.dispatch entry).world⟩) ∧
      (entry ∉ fired → s.leave settings entry = if rule.active then s.enter entry.scene else entry.scene)) ∧
    (∀ id, outcome.world.fired.lastFired id =
      ((fired.filter (·.rule.id = id)).getLast?.map s.noted).or (opening.fired.lastFired id)) ∧
    ∀ rule ∈ rules, rule.active = true →
      opening.fired.lastFired rule.id = scene.fired.lastFired rule.id := by
  intro opening fired judged outcome
  have run : outcome = _ := tick_of_loaded loaded
  have reports : ∀ event ∈ (s.rules scene.world).events, event.isOwn = false := s.rules_reports scene.world
  have world : outcome.world = s.afterTurns settings rules opening := by
    rw [run]
    exact congrArg Outcome.world (s.considerAll_entries settings rules opening)
  refine ⟨?_, ?_, ?_, world, ?_, ?_, ?_⟩
  · rw [run]
    exact ⟨_, rfl, s.considerAll_fired settings rules opening⟩
  · rw [run]
    simp only [Outcome.effects, List.filterMap_append, effects_of_reports reports, List.nil_append]
    exact s.considerAll_effects settings rules opening
  · rw [run]
    have quiet : (s.rules scene.world).events.filterMap Event.query? = [] :=
      List.filterMap_eq_nil_iff.mpr fun event member => Event.query?_of_report (reports event member)
    simp only [Outcome.queries, List.filterMap_append, quiet, List.nil_append]
    exact s.considerAll_queries settings rules opening
  · rintro before rule after rfl entry
    have place : s.entries settings (before ++ rule :: after) opening =
        s.entries settings before opening ++ entry :: s.entries settings after (s.leave settings entry) :=
      s.entries_append settings before (rule :: after) opening
    have inside : entry ∈ s.entries settings (before ++ rule :: after) opening := by simp [place]
    have member : entry ∈ fired ↔ s.fires settings entry = true := by simp [fired, inside]
    refine ⟨place, member.trans fires_iff, by simp [judged, inside, judges, entry], ?_, ?_⟩
    · exact fun fires => leave_of_fires (member.mp fires)
    · exact fun silent => leave_of_silent (Bool.eq_false_iff.mpr (mt member.mpr silent))
  · intro id
    rw [world]
    exact s.afterTurns_lastFired settings id rules opening
  · exact fun rule inside active => opened_lastFired (List.mem_filter.mpr ⟨inside, active⟩)

end Surroundings

def houseRule (number : UInt8) (condition : Condition) (action : Action) (active : Bool) : Rule where
  id := ⟨⟨number :: List.replicate 15 0, rfl⟩⟩
  name := "house"
  description := none
  triggerDevice := ⟨"lamp"⟩
  trigger := ⟨none, condition⟩
  actionDevice := ⟨"lamp"⟩
  action := action
  active := active
  owner := ⟨default⟩
  createdAt := .epoch

def lampOn : Command := [("action", .text "turn_on")]

def houseRules : List Rule :=
  [houseRule 3 (.composite .and []) (.notification "never" logChannel) false,
    houseRule 1 (.status "off") (.sequence [⟨some ⟨"lamp"⟩, .command lampOn⟩, ⟨none, .unsupported none .noAction⟩])
      true,
    houseRule 2 (.status "on") (.notification "lit" logChannel) true,
    houseRule 1 (.status "on") (.notification "again" logChannel) true]

def house : World :=
  { World.everything .epoch with
    rules := .everything houseRules
    telemetry := .memory (TelemetryLog.empty.setStatus ⟨"lamp"⟩ "off") }

/-- The first active rule lights the lamp, though a step of its action fails. That lets the second one fire, and keeps
the last, which has the same identifier, from being judged. -/
theorem tick_dispatches_each_firing_once_of_house :
    let first := houseRules[1]
    let second := houseRules[2]
    (World.surroundings.rules house).value = .ok houseRules ∧
    (World.surroundings.tick {} ⟨.empty, house⟩).effects = [.publish ⟨"lamp"⟩ lampOn, .notify "lit"] ∧
    (World.surroundings.tick {} ⟨.empty, house⟩).queries = [.status ⟨"lamp"⟩, .status ⟨"lamp"⟩] ∧
    (∃ report, (World.surroundings.tick {} ⟨.empty, house⟩).value = .ok report ∧
      report.fired = [first.id, second.id]) ∧
    (World.surroundings.tick {} ⟨.empty, house⟩).world.fired.lastFired first.id = some .epoch := by
  intro first second
  have loaded : (World.surroundings.rules house).value = .ok houseRules := rfl
  obtain ⟨reported, effects, queries, _, _, remembered, _⟩ :=
    World.surroundings.tick_dispatches_each_firing_once {} ⟨.empty, house⟩ loaded
  exact ⟨loaded, effects, queries, reported, remembered first.id⟩

end DeviceRules
