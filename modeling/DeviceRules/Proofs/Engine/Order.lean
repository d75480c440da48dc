import DeviceRules.Proofs.Engine.Inactive

/-! The order of independent rules. When nothing but a pause changes what conditions and clocks see, and no action
pauses, a rule has the same turn wherever it stands in the list: a tick over the rules in another order fires the same
rules, attempts the same effects and knows the same of each rule afterwards. -/
namespace DeviceRules

namespace Action

mutual

def isPrompt : Action → Bool
  | delay _ => false
  | sequence steps => arePrompt steps
  | _ => true

def arePrompt : List (Addressed Action) → Bool
  | [] => true
  | ⟨_, node⟩ :: rest => node.isPrompt && arePrompt rest

end

theorem arePrompt_iff {steps : List (Addressed Action)} :
    arePrompt steps = true ↔ ∀ step ∈ steps, step.node.isPrompt = true := by
  induction steps with
  | nil => simp [arePrompt]
  | cons step rest ih => simp [arePrompt, ih]

theorem isPrompt_of_step {steps : List (Addressed Action)} (prompt : (sequence steps).isPrompt = true) :
    ∀ step ∈ steps, step.node.isPrompt = true :=
  arePrompt_iff.mp (by simpa only [isPrompt] using prompt)

theorem wait_not_mem_effects (action : Action) : ∀ device : Option DeviceId, action.isPrompt = true →
    ∀ duration, Effect.wait duration ∉ action.effects device := by
  induction action using Action.nodeInduction with
  | command body =>
      intro device _ duration member
      cases device <;> simp [effects, ownEffect?] at member
  | notification message channel =>
      intro device _ duration member
      rw [effects_of_leaf rfl, Option.mem_toList, ownEffect?] at member
      split at member <;> cases member
  | webhook hook | unsupported kind defect =>
      intro device _ duration member
      simp [effects, ownEffect?] at member
  | delay seconds =>
      intro _ prompt
      cases prompt
  | sequence steps ih =>
      intro device prompt duration
      have each := isPrompt_of_step prompt
      clear prompt
      induction steps with
      | nil => simp [effects, leavesOf]
      | cons step rest tail =>
          rw [effects_sequence_cons, List.mem_append, not_or]
          obtain ⟨here, others⟩ := List.forall_mem_cons.mp each
          constructor
          · exact ih step List.mem_cons_self _ here duration
          · exact tail (fun step member => ih step (List.mem_cons_of_mem _ member)) others

end Action

namespace Surroundings

variable {σ τ : Type} (s : Surroundings σ) (settings : EngineSettings)

/-- What conditions and clocks see of a world. -/
def view (world : σ) : Telemetry × Instant × LocalTime := (s.telemetry world, s.now world, s.localTime world)

def answers (world : σ) : (DeviceId → Command → Except Outage Bool) × (WebhookRequest → Except Outage Nat) :=
  (fun device command => (s.publish device command world).value, fun request => (s.send request world).value)

/-- Nothing but a pause changes what is looked at. -/
structure Keeps (look : σ → τ) : Prop where
  elapse : ∀ world, look (s.elapse world) = look world
  publish : ∀ device command world, look (s.publish device command world).world = look world
  send : ∀ request world, look (s.send request world).world = look world

variable {s} {look : σ → τ}

theorem Keeps.call (keeps : s.Keeps look) {effect : Effect} (prompt : ∀ duration, effect ≠ .wait duration)
    (world : σ) : look (s.call effect world) = look world := by
  cases effect with
  | publish device command => exact keeps.publish device command world
  | request request => exact keeps.send request world
  | notify message => rfl
  | wait duration => exact absurd rfl (prompt duration)

theorem Keeps.worldAfter (keeps : s.Keeps look) {effects : List Effect}
    (prompt : ∀ duration, Effect.wait duration ∉ effects) :
    ∀ world, look (s.worldAfter effects world) = look world := by
  induction effects with
  | nil => exact fun _ => rfl
  | cons effect rest ih =>
      intro world
      have here : ∀ duration, effect ≠ .wait duration := fun duration same => prompt duration (by simp [same])
      have others : ∀ duration, Effect.wait duration ∉ rest := fun duration member =>
        prompt duration (List.mem_cons_of_mem _ member)
      calc look (s.worldAfter (effect :: rest) world)
          = look (s.call effect world) := ih others _
        _ = look world := keeps.call here world

theorem Keeps.execute (keeps : s.Keeps look) {action : Action} (prompt : action.isPrompt = true)
    (device : Option DeviceId) (world : σ) : look (s.execute device action world).world = look world := by
  rw [(s.execute_effects action device world).2]
  exact keeps.worldAfter (action.wait_not_mem_effects device prompt) world

theorem perform_value {first second : σ} (same : s.answers first = s.answers second) (effect : Effect) :
    (s.perform effect first).value = (s.perform effect second).value := by
  obtain ⟨published, sent⟩ := Prod.mk.inj same
  cases effect with
  | publish device command =>
      have answer := congrFun (congrFun published device) command
      simp only [perform, answer]
      split <;> rfl
  | request request =>
      have answer := congrFun sent request
      simp only [perform, answer]
      split
      · split <;> rfl
      · rfl
  | notify message => rfl
  | wait duration => rfl

theorem executeSteps_value (keeps : s.Keeps s.answers) {steps : List (Addressed Action)}
    (prompt : ∀ step ∈ steps, step.node.isPrompt = true)
    (each : ∀ step ∈ steps, ∀ (device : Option DeviceId) (first second : σ), s.answers first = s.answers second →
      (s.execute device step.node first).value = (s.execute device step.node second).value) :
    ∀ (index : Nat) (first second : σ), s.answers first = s.answers second →
      (s.executeSteps index steps first).value = (s.executeSteps index steps second).value := by
  induction steps with
  | nil => exact fun _ _ _ _ => rfl
  | cons step rest ih =>
      intro index first second same
      obtain ⟨promptly, later⟩ := List.forall_mem_cons.mp prompt
      obtain ⟨here, others⟩ := List.forall_mem_cons.mp each
      have left : s.answers (s.execute step.target? step.node first).world =
          s.answers (s.execute step.target? step.node second).world := by
        rw [keeps.execute promptly, keeps.execute promptly, same]
      have value := here step.target? first second same
      have tail := ih later others (index + 1) _ _ left
      simp only [Addressed.target?] at value tail
      simp only [executeSteps, value]
      split
      · exact tail
      · exact congrArg (· + 1) tail

theorem execute_value (keeps : s.Keeps s.answers) (action : Action) : action.isPrompt = true →
    ∀ (device : Option DeviceId) (first second : σ), s.answers first = s.answers second →
      (s.execute device action first).value = (s.execute device action second).value := by
  have leaf {action : Action} (leaf : action.isLeaf = true) (device : Option DeviceId) (first second : σ)
      (same : s.answers first = s.answers second) :
      (s.execute device action first).value = (s.execute device action second).value := by
    cases action with
    | sequence steps => contradiction
    | command body =>
        cases device with
        | none => rfl
        | some d => exact perform_value same _
    | notification message channel =>
        simp only [execute]
        split <;> rfl
    | webhook hook => exact perform_value same _
    | delay seconds | unsupported kind defect => rfl
  induction action using Action.nodeInduction with
  | sequence steps ih =>
      intro prompt device first second same
      have each := Action.isPrompt_of_step prompt
      have failures := executeSteps_value keeps each (fun step member => ih step member (each step member)) 0
        first second same
      simp only [execute, failures]
      split <;> rfl
  | _ => exact fun _ => leaf rfl

end Surroundings

variable {σ τ β : Type}

theorem eq_of_perm_of_length_le_one {first second : List β} (perm : first.Perm second) (few : first.length ≤ 1) :
    first = second := by
  match first, few with
  | [], _ => exact perm.nil_eq
  | [_], _ => exact perm.singleton_eq

/-- Both scenes show the same of the world, and the same of one rule. -/
structure Scene.Alike (look : σ → τ) (id : RuleId) (first second : Scene σ) : Prop where
  world : look first.world = look second.world
  fired : first.fired.lastFired id = second.fired.lastFired id

namespace Surroundings

variable {s : Surroundings σ} {settings : EngineSettings} {look : σ → τ}

/-- A turn shows the other rules the scene that it finds. -/
theorem Keeps.leave (keeps : s.Keeps look) {entry : Entry σ} (prompt : entry.rule.action.isPrompt = true)
    {id : RuleId} (other : id ≠ entry.rule.id) : (s.leave settings entry).Alike look id entry.scene := by
  cases fires : s.fires settings entry with
  | true =>
      rw [leave_of_fires fires]
      constructor
      · calc look (s.elapse (s.dispatch entry).world)
            = look (s.dispatch entry).world := keeps.elapse _
          _ = look (s.enter entry.scene).world := keeps.execute prompt _ _
          _ = look entry.scene.world := keeps.elapse _
      · rw [FireState.lastFired_record, if_neg other]
  | false =>
      rw [leave_of_silent fires]
      split
      · exact ⟨keeps.elapse _, rfl⟩
      · exact ⟨rfl, rfl⟩

/-- What is the same in alike scenes is the same wherever the rules stand. -/
theorem Keeps.entries_map (keeps : s.Keeps look) {f : Entry σ → β} {rules : List Rule}
    (blind : ∀ rule ∈ rules, ∀ first second : Scene σ, first.Alike look rule.id second →
      f ⟨rule, first⟩ = f ⟨rule, second⟩)
    (distinct : (rules.map (·.id)).Nodup) (prompt : ∀ rule ∈ rules, rule.action.isPrompt = true) :
    ∀ scene : Scene σ, (s.entries settings rules scene).map f = rules.map fun rule => f ⟨rule, scene⟩ := by
  induction rules with
  | nil => exact fun _ => rfl
  | cons rule rest ih =>
      intro scene
      obtain ⟨_, later⟩ := List.forall_mem_cons.mp blind
      obtain ⟨promptly, others⟩ := List.forall_mem_cons.mp prompt
      obtain ⟨unique, distinct⟩ := List.nodup_cons.mp distinct
      simp only [entries, List.map_cons]
      rw [ih later distinct others]
      refine congrArg (_ :: ·) (List.map_congr_left fun other member => later other member _ _ ?_)
      have differs : other.id ≠ rule.id := fun same => unique (List.mem_map.mpr ⟨other, member, same⟩)
      have left : (s.leave settings ⟨rule, scene⟩).Alike look other.id scene := keeps.leave promptly differs
      exact left

/-- Rules in two orders, each with an identifier of its own and an action that does not pause. -/
structure Reordered (rules others : List Rule) : Prop where
  perm : rules.Perm others
  distinct : (rules.map (·.id)).Nodup
  prompt : ∀ rule ∈ rules, rule.action.isPrompt = true

namespace Reordered

variable {rules others : List Rule} (reordered : Reordered rules others)

include reordered

theorem symm : Reordered others rules where
  perm := reordered.perm.symm
  distinct := (reordered.perm.map _).nodup_iff.mp reordered.distinct
  prompt := fun rule member => reordered.prompt rule (reordered.perm.mem_iff.mpr member)

theorem entries_perm (keeps : s.Keeps look) {f : Entry σ → β}
    (blind : ∀ rule ∈ rules, ∀ first second : Scene σ, first.Alike look rule.id second →
      f ⟨rule, first⟩ = f ⟨rule, second⟩) (scene : Scene σ) :
    ((s.entries settings rules scene).map f).Perm ((s.entries settings others scene).map f) := by
  have blindly : ∀ rule ∈ others, ∀ first second : Scene σ, first.Alike look rule.id second →
      f ⟨rule, first⟩ = f ⟨rule, second⟩ := fun rule member => blind rule (reordered.perm.mem_iff.mpr member)
  rw [keeps.entries_map blind reordered.distinct reordered.prompt,
    keeps.entries_map blindly reordered.symm.distinct reordered.symm.prompt]
  exact reordered.perm.map _

end Reordered

section Turn

variable {rule : Rule} {first second : Scene σ} (keeps : s.Keeps s.view)

include keeps

theorem due_alike (alike : first.Alike s.view rule.id second) : s.due settings rule first = s.due settings rule second := by
  have start : s.start first = s.start second := by
    have seen : s.view (s.enter first).world = s.view (s.enter second).world :=
      (keeps.elapse _).trans (alike.world.trans (keeps.elapse _).symm)
    exact congrArg (fun view => view.2.1) seen
  simp only [due, FireState.isDue, alike.fired, start]

theorem judgement_alike (alike : first.Alike s.view rule.id second) :
    s.judgement rule first = s.judgement rule second := by
  have seen : s.view (s.enter first).world = s.view (s.enter second).world :=
    (keeps.elapse _).trans (alike.world.trans (keeps.elapse _).symm)
  obtain ⟨telemetry, clocks⟩ := Prod.mk.inj seen
  obtain ⟨now, localTime⟩ := Prod.mk.inj clocks
  simp only [judgement, moment, start, telemetry, now, localTime, alike.fired]

theorem fires_alike (alike : first.Alike s.view rule.id second) :
    s.fires settings ⟨rule, first⟩ = s.fires settings ⟨rule, second⟩ := by
  simp only [fires, judges, due_alike keeps alike, judgement_alike keeps alike]

theorem noted_alike (alike : first.Alike s.view rule.id second) (prompt : rule.action.isPrompt = true) :
    s.noted ⟨rule, first⟩ = s.noted ⟨rule, second⟩ := by
  have still (scene : Scene σ) : s.view (s.elapse (s.dispatch ⟨rule, scene⟩).world) = s.view scene.world := by
    rw [keeps.elapse, dispatch, keeps.execute prompt]
    exact keeps.elapse _
  have seen := (still first).trans (alike.world.trans (still second).symm)
  exact congrArg (fun view => view.2.1) seen

/-- A verdict is the same in alike scenes, if it is the same of both firings. -/
theorem verdict_alike (alike : first.Alike s.view rule.id second) {p : Verdict → Bool}
    (fired : p (.fired (s.dispatch ⟨rule, first⟩).value) = p (.fired (s.dispatch ⟨rule, second⟩).value)) :
    p (s.consider settings rule first).value = p (s.consider settings rule second).value := by
  have due : s.due settings rule first = s.due settings rule second := due_alike keeps alike
  cases early : s.due settings rule second with
  | false => rw [consider_of_not_due early, consider_of_not_due (due.trans early)]
  | true =>
      rw [consider_of_due early, consider_of_due (due.trans early), judgement_alike keeps alike]
      cases (s.judgement rule second).value with
      | error fault => rfl
      | ok holds =>
          cases holds with
          | false => rfl
          | true => exact fired

end Turn

namespace Reordered

variable {rules others : List Rule} (reordered : Reordered rules others) (scene : Scene σ)

include reordered

theorem counter (keeps : s.Keeps look) {p : Verdict → Bool}
    (blind : ∀ rule ∈ rules, ∀ first second : Scene σ, first.Alike look rule.id second →
      p (s.consider settings rule first).value = p (s.consider settings rule second).value) :
    (s.considerAll settings (rules.filter (·.active)) scene).value.countP (p ·.2) =
      (s.considerAll settings (others.filter (·.active)) scene).value.countP (p ·.2) := by
  let held (entry : Entry σ) : Bool := entry.rule.active && p (s.consider settings entry.rule entry.scene).value
  have verdicts : ((s.entries settings rules scene).map held).Perm ((s.entries settings others scene).map held) := by
    refine reordered.entries_perm keeps (fun rule member first second alike => ?_) scene
    exact congrArg (rule.active && ·) (blind rule member first second alike)
  have counted := verdicts.countP_eq id
  rw [List.countP_map, List.countP_map] at counted
  rw [considerAll_countP, considerAll_countP]
  exact counted

/-- A counter of verdicts that takes all firings alike. -/
theorem flat_counter (keeps : s.Keeps s.view) {p : Verdict → Bool}
    (flat : ∀ first second, p (.fired first) = p (.fired second)) :
    (s.considerAll settings (rules.filter (·.active)) scene).value.countP (p ·.2) =
      (s.considerAll settings (others.filter (·.active)) scene).value.countP (p ·.2) :=
  reordered.counter scene keeps fun _ _ _ _ alike => verdict_alike keeps alike (flat _ _)

/-- The failures of actions depend on the answers too. -/
theorem failure_counter (keeps : s.Keeps s.view) (answering : s.Keeps s.answers) :
    (s.considerAll settings (rules.filter (·.active)) scene).value.countP (·.2.isActionFailure) =
      (s.considerAll settings (others.filter (·.active)) scene).value.countP (·.2.isActionFailure) := by
  have both : s.Keeps fun world => (s.view world, s.answers world) :=
    ⟨fun world => Prod.ext (keeps.elapse world) (answering.elapse world),
      fun device command world => Prod.ext (keeps.publish device command world) (answering.publish device command world),
      fun request world => Prod.ext (keeps.send request world) (answering.send request world)⟩
  refine reordered.counter scene both fun rule member first second alike => ?_
  obtain ⟨view, answers⟩ := Prod.mk.inj alike.world
  refine verdict_alike keeps ⟨view, alike.fired⟩ ?_
  have entered : s.answers (s.enter first).world = s.answers (s.enter second).world :=
    (answering.elapse _).trans (answers.trans (answering.elapse _).symm)
  exact congrArg (fun value => (Verdict.fired value).isActionFailure)
    (execute_value answering rule.action (reordered.prompt rule member) _ _ _ entered)

/-- What the firings come to, when each of them comes to the same in alike scenes. -/
theorem firings_perm (keeps : s.Keeps s.view) {f : Entry σ → List β}
    (blind : ∀ rule ∈ rules, ∀ first second : Scene σ, first.Alike s.view rule.id second →
      f ⟨rule, first⟩ = f ⟨rule, second⟩) :
    (((s.entries settings rules scene).filter (s.fires settings)).flatMap f).Perm
      (((s.entries settings others scene).filter (s.fires settings)).flatMap f) := by
  rw [flatMap_filter, flatMap_filter, List.flatMap_def, List.flatMap_def]
  refine (reordered.entries_perm keeps (fun rule member first second alike => ?_) scene).flatten
  rw [fires_alike keeps alike, blind rule member first second alike]

theorem fired_perm (keeps : s.Keeps s.view) :
    (((s.considerAll settings (rules.filter (·.active)) scene).value.filter (·.2.isFired)).map (·.1)).Perm
      (((s.considerAll settings (others.filter (·.active)) scene).value.filter (·.2.isFired)).map (·.1)) := by
  rw [considerAll_fired, considerAll_fired, List.map_eq_flatMap, List.map_eq_flatMap]
  exact reordered.firings_perm scene keeps fun _ _ _ _ _ => rfl

theorem effects_perm (keeps : s.Keeps s.view) :
    (s.considerAll settings (rules.filter (·.active)) scene).effects.Perm
      (s.considerAll settings (others.filter (·.active)) scene).effects := by
  rw [considerAll_effects, considerAll_effects]
  refine reordered.firings_perm scene keeps fun rule _ first second _ => ?_
  have attempts (scene : Scene σ) :
      (s.dispatch ⟨rule, scene⟩).effects = rule.action.effects rule.actionDevice.target? :=
    (s.execute_effects _ _ _).1
  rw [attempts, attempts]

/-- Only one of the rules can be noted under an identifier. -/
theorem noted_perm (keeps : s.Keeps s.view) (id : RuleId) :
    ((((s.entries settings rules scene).filter (s.fires settings)).filter (·.rule.id = id)).map s.noted).Perm
      ((((s.entries settings others scene).filter (s.fires settings)).filter (·.rule.id = id)).map s.noted) := by
  have picked (entries : List (Entry σ)) : (entries.filter (·.rule.id = id)).map s.noted =
      entries.flatMap fun entry => if decide (entry.rule.id = id) then [s.noted entry] else [] := by
    rw [List.map_eq_flatMap, flatMap_filter]
  rw [picked, picked]
  refine reordered.firings_perm scene keeps fun rule member first second alike => ?_
  rw [noted_alike keeps alike (reordered.prompt rule member)]

theorem noted_length_le (id : RuleId) :
    ((((s.entries settings rules scene).filter (s.fires settings)).filter (·.rule.id = id)).map s.noted).length ≤ 1 := by
  calc ((((s.entries settings rules scene).filter (s.fires settings)).filter (·.rule.id = id)).map s.noted).length
      = ((s.entries settings rules scene).filter (s.fires settings)).countP (·.rule.id = id) := by
        rw [List.length_map, List.countP_eq_length_filter]
    _ ≤ (s.entries settings rules scene).countP (·.rule.id = id) := List.filter_sublist.countP_le
    _ = (rules.map (·.id)).count id := by
        have listed := congrArg (List.map (·.id)) (s.entries_rules settings rules scene)
        rw [← listed, List.map_map, List.count_eq_countP, List.countP_map]
        exact List.countP_congr fun entry _ => by simp
    _ ≤ 1 := List.nodup_iff_count.mp reordered.distinct id

theorem lastFired_eq (keeps : s.Keeps s.view) (id : RuleId) :
    (s.afterTurns settings rules scene).fired.lastFired id =
      (s.afterTurns settings others scene).fired.lastFired id := by
  rw [afterTurns_lastFired, afterTurns_lastFired, ← List.getLast?_map, ← List.getLast?_map]
  rw [eq_of_perm_of_length_le_one (reordered.noted_perm scene keeps id) (reordered.noted_length_le scene id)]

theorem opened_eq :
    opened settings (others.filter (·.active)) scene = opened settings (rules.filter (·.active)) scene := by
  have same : ∀ id, id ∈ (others.filter (·.active)).map (·.id) ↔ id ∈ (rules.filter (·.active)).map (·.id) :=
    fun id => ((reordered.perm.filter _).map _).mem_iff.symm
  simp only [opened, FireState.retain_congr same]

end Reordered

/-- The order of rules does not matter when each has an identifier of its own, no action pauses, and nothing but a pause
changes what conditions and clocks see: a tick over the rules in any other order fires the same rules, attempts the same
effects as often, counts the same and knows the same of each rule afterwards. So it is with the failures of actions,
unless a channel answers otherwise because of what it was asked before. -/
theorem tick_ignores_order (s : Surroundings σ) (settings : EngineSettings) (scene : Scene σ) {rules others : List Rule}
    (reordered : rules.Perm others) (distinct : (rules.map (·.id)).Nodup)
    (prompt : ∀ rule ∈ rules, rule.action.isPrompt = true) (keeps : s.Keeps s.view) :
    let first := (s.withRules rules).tick settings scene
    let second := (s.withRules others).tick settings scene
    (∃ report other, first.value = .ok report ∧ second.value = .ok other ∧ report.fired.Perm other.fired ∧
      other = { report with fired := other.fired, actionFailures := other.actionFailures } ∧
      (s.Keeps s.answers → other.actionFailures = report.actionFailures)) ∧
    first.effects.Perm second.effects ∧
    first.world.fired.entries.Perm second.world.fired.entries ∧
    ∀ id, first.world.fired.lastFired id = second.world.fired.lastFired id := by
  intro first second
  have order : Reordered rules others := ⟨reordered, distinct, prompt⟩
  have firstRun : first = _ := s.tick_withRules settings rules scene
  have secondRun : second = _ := s.tick_withRules settings others scene
  rw [order.opened_eq] at secondRun
  have known : ∀ id, first.world.fired.lastFired id = second.world.fired.lastFired id := by
    intro id
    have left : second.world = s.afterTurns settings others _ := s.tick_withRules_world settings others scene
    have right : first.world = s.afterTurns settings rules _ := s.tick_withRules_world settings rules scene
    rw [left, right, order.opened_eq]
    exact order.lastFired_eq _ keeps id
  refine ⟨?_, ?_, FireState.entries_perm known, known⟩
  · rw [firstRun, secondRun]
    refine ⟨_, _, rfl, rfl, order.fired_perm _ keeps, ?_, fun answering => ?_⟩
    · simp only [TickReport.ofVerdicts, TickReport.mk.injEq, and_true, true_and]
      refine ⟨reordered.length_eq.symm, ?_, ?_, ?_⟩
      · exact (order.flat_counter _ keeps fun _ _ => rfl).symm
      · exact (order.flat_counter (p := (!·.isRateLimited)) _ keeps fun _ _ => rfl).symm
      · exact (order.flat_counter _ keeps fun _ _ => rfl).symm
    · exact (order.failure_counter _ keeps answering).symm
  · rw [firstRun, secondRun]
    exact order.effects_perm _ keeps

end Surroundings

namespace World

/-- The simulated world with devices that accept commands and change no status. -/
def detached : Surroundings World :=
  { surroundings with
    publish := fun device command world =>
      if world.brokerDown then ⟨.error (.unavailable .broker), [], world⟩
      else
        let sent := world.channel.publish none device command
        ⟨.ok sent.value, sent.events, { world with channel := sent.world.1 }⟩
    publish_reports := by
      intro device command world event member
      unfold CommandChannel.publish at member
      split at member
      · simp at member
      · split at member <;> simp_all [Event.isOwn] }

/-- A command is noted with those that were accepted, or nothing is changed. -/
theorem detached_publish (device : DeviceId) (command : Command) (world : World) : ∃ sent,
    (detached.publish device command world).world = { world with channel := { world.channel with sent := sent } } := by
  simp only [detached, CommandChannel.publish]
  split
  · exact ⟨world.channel.sent, rfl⟩
  · split
    · exact ⟨world.channel.sent ++ [(device, command)], rfl⟩
    · exact ⟨world.channel.sent, rfl⟩

theorem detached_send (request : WebhookRequest) (world : World) : (detached.send request world).world = world := by
  simp only [detached, surroundings, send]
  split <;> rfl

theorem detached_answers (world : World) : detached.answers world =
    (fun device _ => if world.brokerDown then .error (.unavailable .broker) else .ok (world.channel.reaches device),
      fun request => match world.answer request.url with
        | some status => .ok status
        | none => .error (.unavailable .webhookTarget)) := by
  refine Prod.ext (funext fun device => funext fun command => ?_) (funext fun request => ?_)
  · simp only [Surroundings.answers, detached, CommandChannel.publish]
    split
    · rfl
    · split <;> simp_all
  · simp only [Surroundings.answers, detached, surroundings, send]
    cases world.answer request.url <;> rfl

theorem detached_keeps_view : detached.Keeps detached.view where
  elapse _ := rfl
  publish device command world := by
    obtain ⟨sent, left⟩ := detached_publish device command world
    rw [left]
    rfl
  send request world := by rw [detached_send]

theorem detached_keeps_answers : detached.Keeps detached.answers where
  elapse _ := rfl
  publish device command world := by
    obtain ⟨sent, left⟩ := detached_publish device command world
    rw [left, detached_answers, detached_answers]
    rfl
  send request world := by rw [detached_send]

end World

def bellRule : Rule :=
  houseRule 2 (.status "off") (.sequence [⟨some ⟨"bell"⟩, .command lampOn⟩, ⟨none, .unsupported none .noAction⟩]) true

/-- Two rules fire, one of which fails, and a third one would fire if the lamp showed that it is lit. -/
theorem tick_ignores_order_of_house :
    let first := (World.detached.withRules [lampRule, bellRule, hallRule]).tick {} ⟨.empty, house⟩
    let second := (World.detached.withRules [hallRule, bellRule, lampRule]).tick {} ⟨.empty, house⟩
    first.value = .ok ⟨3, 0, 3, [lampRule.id, bellRule.id], 1, 0, 0⟩ ∧
    (∃ fired, [lampRule.id, bellRule.id].Perm fired ∧ second.value = .ok ⟨3, 0, 3, fired, 1, 0, 0⟩) ∧
    [Effect.publish ⟨"lamp"⟩ lampOn, .publish ⟨"bell"⟩ lampOn].Perm second.effects ∧
    ∀ id, first.world.fired.lastFired id = second.world.fired.lastFired id := by
  intro first second
  have reordered : [lampRule, bellRule, hallRule].Perm [hallRule, bellRule, lampRule] :=
    List.reverse_perm [hallRule, bellRule, lampRule]
  have distinct : ([lampRule, bellRule, hallRule].map (·.id)).Nodup := by decide
  have prompt : ∀ rule ∈ [lampRule, bellRule, hallRule], rule.action.isPrompt = true := by
    simp [lampRule, bellRule, hallRule, houseRule, Action.isPrompt, Action.arePrompt]
  have reported : first.value = .ok ⟨3, 0, 3, [lampRule.id, bellRule.id], 1, 0, 0⟩ := rfl
  obtain ⟨⟨report, other, value, reads, fired, same, failures⟩, effects, _, known⟩ :=
    World.detached.tick_ignores_order {} ⟨.empty, house⟩ reordered distinct prompt World.detached_keeps_view
  cases reported.symm.trans value
  refine ⟨reported, ⟨other.fired, fired, ?_⟩, effects, known⟩
  rw [reads, same, failures World.detached_keeps_answers]

namespace World

/-- Devices that keep no status, of which only the first to be sent a command accepts it. -/
def firstCome : Surroundings World :=
  { detached with
    publish := fun device command world =>
      if world.channel.sent.isEmpty then detached.publish device command world else ⟨.ok false, [], world⟩
    publish_reports := by
      intro device command world event member
      split at member
      · exact detached.publish_reports device command world event member
      · simp at member }

/-- An address that lights the lamp when it is called. -/
def remote : Surroundings World :=
  { detached with
    send := fun _ world => ⟨.ok 200, [], { world with telemetry := world.telemetry.setStatus ⟨"lamp"⟩ "on" }⟩
    send_reports := by simp }

theorem firstCome_keeps_view : firstCome.Keeps firstCome.view where
  elapse _ := rfl
  publish device command world := by
    simp only [firstCome]
    split
    · exact detached_keeps_view.publish device command world
    · rfl
  send := detached_keeps_view.send

/-- Commands change what simulated devices show, and no sample. -/
theorem publish_keeps_samples (device : DeviceId) (command : Command) (world : World) :
    (surroundings.telemetry (surroundings.publish device command world).world).samples =
      (surroundings.telemetry world).samples := by
  have driven (log : TelemetryLog) :
      (CommandChannel.drive log device command).telemetry.samples = log.telemetry.samples := by
    unfold CommandChannel.drive
    split <;> rfl
  obtain ⟨_, _, store, _, _, _, _, _, _, _, _⟩ := world
  simp only [surroundings, publish, CommandChannel.publish]
  split
  · rfl
  · split
    · cases store with
      | memory log =>
          simp only [answers, TelemetryStore.devices, Option.map_some, TelemetryStore.telemetry, driven]
      | database tables => rfl
    · cases store <;> rfl

end World

def remoteRule : Rule := houseRule 4 (.status "off") (.webhook ⟨"http://remote", .post, .null, [], 10⟩) true

/-- The order shows when a channel does not answer as before, when commands change what the lamp shows, though no
sample, and when calls do. -/
theorem order_shows_through_channels :
    let ticked (s : Surroundings World) (rules : List Rule) := ((s.withRules rules).tick {} ⟨.empty, house⟩).value
    (([lampRule, bellRule, hallRule, remoteRule].map (·.id)).Nodup ∧
      ∀ rule ∈ [lampRule, bellRule, hallRule, remoteRule], rule.action.isPrompt = true) ∧
    (World.firstCome.Keeps World.firstCome.view ∧
      ticked World.firstCome [lampRule, bellRule] = .ok ⟨2, 0, 2, [lampRule.id, bellRule.id], 1, 0, 0⟩ ∧
      ticked World.firstCome [bellRule, lampRule] = .ok ⟨2, 0, 2, [bellRule.id, lampRule.id], 2, 0, 0⟩) ∧
    ((∀ device command world,
        (World.surroundings.telemetry (World.surroundings.publish device command world).world).samples =
          (World.surroundings.telemetry world).samples) ∧
      ticked World.surroundings [lampRule, hallRule] = .ok ⟨2, 0, 2, [lampRule.id, hallRule.id], 0, 0, 0⟩ ∧
      ticked World.surroundings [hallRule, lampRule] = .ok ⟨2, 0, 2, [lampRule.id], 0, 0, 0⟩) ∧
    ((∀ device command world, World.remote.view (World.remote.publish device command world).world =
        World.remote.view world) ∧
      ticked World.remote [remoteRule, hallRule] = .ok ⟨2, 0, 2, [remoteRule.id, hallRule.id], 0, 0, 0⟩ ∧
      ticked World.remote [hallRule, remoteRule] = .ok ⟨2, 0, 2, [remoteRule.id], 0, 0, 0⟩) := by
  intro ticked
  refine ⟨⟨?_, ?_⟩, ⟨World.firstCome_keeps_view, rfl, rfl⟩, ⟨World.publish_keeps_samples, rfl, rfl⟩,
    World.detached_keeps_view.publish, rfl, rfl⟩
  · decide
  · simp [lampRule, bellRule, hallRule, remoteRule, houseRule, Action.isPrompt, Action.arePrompt]

end DeviceRules
