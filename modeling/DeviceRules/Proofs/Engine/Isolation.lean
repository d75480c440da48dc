import DeviceRules.Proofs.Engine.Dispatch

/-! A rule that does not fire leaves no trace on the others. Without it the same tick fires the same rules, attempts
the same effects and ends in the same world; only what the engine knows of that one rule may differ. -/
namespace DeviceRules

/-- Both states know the same of every rule but one. -/
def FireState.AgreesBut (rule : RuleId) (first second : FireState) : Prop :=
  ∀ id, id ≠ rule → first.lastFired id = second.lastFired id

namespace FireState.AgreesBut

variable {rule id : RuleId} {first second : FireState}

theorem record (agrees : AgreesBut rule first second) (id : RuleId) (time : Instant) :
    AgreesBut rule (first.record id time) (second.record id time) := by
  intro other differs
  rw [lastFired_record, lastFired_record, agrees other differs]

theorem retain {active others : List RuleId} (same : ∀ id, id ≠ rule → (id ∈ active ↔ id ∈ others))
    (state : FireState) : AgreesBut rule (state.retain active) (state.retain others) := by
  intro id differs
  have kept : active.contains id = others.contains id := by
    rw [Bool.eq_iff_iff, List.contains_iff_mem, List.contains_iff_mem, same id differs]
  rw [lastFired_retain, lastFired_retain, kept]

theorem isDue (agrees : AgreesBut rule first second) (differs : id ≠ rule) (interval : Duration) (now : Instant) :
    first.isDue id interval now = second.isDue id interval now := by
  simp only [FireState.isDue, agrees id differs]

end FireState.AgreesBut

structure Scene.AgreesBut {σ : Type} (rule : RuleId) (first second : Scene σ) : Prop where
  fired : first.fired.AgreesBut rule second.fired
  world : first.world = second.world

namespace Surroundings

variable {σ : Type} (s : Surroundings σ) (settings : EngineSettings)

/-- The same surroundings with a store that holds just these rules. -/
def withRules (rules : List Rule) : Surroundings σ :=
  { s with rules := fun _ => ⟨.ok rules, []⟩, rules_reports := by simp }

theorem executeSteps_withRules {rules : List Rule} {steps : List (Addressed Action)}
    (each : ∀ step ∈ steps, ∀ (device : Option DeviceId) (world : σ),
      (s.withRules rules).execute device step.node world = s.execute device step.node world) :
    ∀ (index : Nat) (world : σ),
      (s.withRules rules).executeSteps index steps world = s.executeSteps index steps world := by
  induction steps with
  | nil => exact fun _ _ => rfl
  | cons step rest ih =>
      intro index world
      obtain ⟨here, others⟩ := List.forall_mem_cons.mp each
      simp only [executeSteps, here, ih others]

theorem execute_withRules (rules : List Rule) (action : Action) : ∀ (device : Option DeviceId) (world : σ),
    (s.withRules rules).execute device action world = s.execute device action world := by
  induction action using Action.nodeInduction with
  | sequence steps ih =>
      intro device world
      simp only [execute, s.executeSteps_withRules ih]
  | command body =>
      intro device world
      cases device <;> rfl
  | notification | webhook | delay | unsupported => exact fun _ _ => rfl

theorem considerAll_withRules (rules active : List Rule) : ∀ scene : Scene σ,
    (s.withRules rules).considerAll settings active scene = s.considerAll settings active scene := by
  have fire (rule : Rule) (scene : Scene σ) : (s.withRules rules).fire rule scene = s.fire rule scene := by
    simp only [Surroundings.fire, execute_withRules]
    rfl
  have consider (rule : Rule) (scene : Scene σ) :
      (s.withRules rules).consider settings rule scene = s.consider settings rule scene := by
    simp only [Surroundings.consider, fire]
    rfl
  induction active with
  | nil => exact fun _ => rfl
  | cons rule rest ih =>
      intro scene
      simp only [considerAll, consider, ih]

variable {s} {silent : RuleId} {first second : Scene σ}

/-- Another rule has the same turn in both scenes. -/
theorem consider_agrees {rule : Rule} (other : rule.id ≠ silent) (agrees : first.AgreesBut silent second) :
    (s.consider settings rule first).value = (s.consider settings rule second).value ∧
      (s.consider settings rule first).events = (s.consider settings rule second).events ∧
      (s.consider settings rule first).world.AgreesBut silent (s.consider settings rule second).world := by
  obtain ⟨fired, world⟩ := first
  obtain ⟨known, _⟩ := second
  obtain ⟨agrees, rfl⟩ := agrees
  have due : s.due settings rule ⟨fired, world⟩ = s.due settings rule ⟨known, world⟩ := agrees.isDue other _ _
  have moment : s.moment rule ⟨fired, world⟩ = s.moment rule ⟨known, world⟩ :=
    congrArg (Moment.mk _ _) (agrees rule.id other)
  have judged : s.judgement rule ⟨fired, world⟩ = s.judgement rule ⟨known, world⟩ :=
    congrArg (rule.trigger.condition.evaluate _ · _) moment
  cases early : s.due settings rule ⟨known, world⟩ with
  | false =>
      rw [consider_of_not_due early, consider_of_not_due (due.trans early)]
      exact ⟨rfl, rfl, agrees, rfl⟩
  | true =>
      rw [consider_of_due early, consider_of_due (due.trans early), judged]
      cases (s.judgement rule ⟨known, world⟩).value with
      | error fault => exact ⟨rfl, rfl, agrees, rfl⟩
      | ok holds =>
          cases holds with
          | false => exact ⟨rfl, rfl, agrees, rfl⟩
          | true => exact ⟨rfl, rfl, agrees.record rule.id _, rfl⟩

/-- Passes with the same firings, the same effects and the same end, but for what is known of one rule. -/
structure SameFirings (silent : RuleId) (first second : Outcome (Scene σ) (List (RuleId × Verdict))) : Prop where
  fired : first.value.filter (·.2.isFired) = second.value.filter (·.2.isFired)
  effects : first.effects = second.effects
  scene : first.world.AgreesBut silent second.world

theorem considerAll_agrees {rules : List Rule} (others : ∀ rule ∈ rules, rule.id ≠ silent) :
    ∀ {first second : Scene σ}, first.AgreesBut silent second →
      SameFirings silent (s.considerAll settings rules first) (s.considerAll settings rules second) := by
  induction rules with
  | nil => exact fun agrees => ⟨rfl, rfl, agrees⟩
  | cons rule rest ih =>
      intro first second agrees
      obtain ⟨here, others⟩ := List.forall_mem_cons.mp others
      obtain ⟨value, events, scene⟩ := consider_agrees settings here agrees
      obtain ⟨fired, effects, last⟩ := ih others scene
      refine ⟨?_, ?_, last⟩
      · simp only [considerAll, List.filter_cons, value, fired]
      · simp only [considerAll, Outcome.effects, List.filterMap_append, events] at effects ⊢
        rw [effects]

/-- A rule that does not fire may be taken out of a pass, if nothing happens by itself. -/
theorem considerAll_without_silent (still : ∀ world, s.elapse world = world) {rule : Rule} {before after : List Rule}
    (unique : ∀ other ∈ before ++ after, other.id ≠ rule.id) :
    ∀ {first second : Scene σ}, first.AgreesBut rule.id second →
      (∀ verdict, (rule.id, verdict) ∈ (s.considerAll settings (before ++ rule :: after) first).value →
        verdict.isFired = false) →
      SameFirings rule.id (s.considerAll settings (before ++ rule :: after) first)
        (s.considerAll settings (before ++ after) second) := by
  induction before with
  | nil =>
      intro first second agrees quiet
      have unfired : (s.consider settings rule first).value.isFired = false := quiet _ List.mem_cons_self
      rcases s.consider_cases settings rule first with ⟨_, _, fired, _⟩ | ⟨_, _, left⟩
      · rw [fired] at unfired
        contradiction
      · have stays : s.enter first = first := congrArg (Scene.mk first.fired) (still first.world)
        rw [stays] at left
        obtain ⟨fired, effects, last⟩ := considerAll_agrees settings unique agrees
        have acts : (s.consider settings rule first).effects = [] := by
          rw [consider_effects, unfired]
          rfl
        refine ⟨?_, ?_, ?_⟩
        · simpa [considerAll, List.filter_cons, unfired, left] using fired
        · simp only [List.nil_append, considerAll, Outcome.effects, List.filterMap_append, left] at effects acts ⊢
          rw [acts, effects, List.nil_append]
        · simpa [considerAll, left] using last
  | cons head before ih =>
      intro first second agrees quiet
      obtain ⟨here, unique⟩ := List.forall_mem_cons.mp unique
      obtain ⟨value, events, scene⟩ := consider_agrees settings here agrees
      obtain ⟨fired, effects, last⟩ :=
        ih unique scene fun verdict member => quiet verdict (List.mem_cons_of_mem _ member)
      refine ⟨?_, ?_, last⟩
      · simp only [List.cons_append, considerAll, List.filter_cons, value, fired]
      · simp only [List.cons_append, considerAll, Outcome.effects, List.filterMap_append, events] at effects ⊢
        rw [effects]

theorem SameFirings.actionFailures {first second : Outcome (Scene σ) (List (RuleId × Verdict))}
    (same : SameFirings silent first second) :
    first.value.countP (·.2.isActionFailure) = second.value.countP (·.2.isActionFailure) := by
  have among (verdicts : List (RuleId × Verdict)) : verdicts.countP (·.2.isActionFailure) =
      (verdicts.filter (·.2.isFired)).countP (·.2.isActionFailure) := by
    rw [List.countP_filter]
    refine List.countP_congr fun entry _ => ?_
    cases entry.2 <;> simp [Verdict.isActionFailure, Verdict.isFired]
  rw [among first.value, among second.value, same.fired]

/-- What a tick comes to when the store holds just these rules. -/
theorem tick_withRules (s : Surroundings σ) (settings : EngineSettings) (rules : List Rule) (scene : Scene σ) :
    (s.withRules rules).tick settings scene =
      let before := opened settings (rules.filter (·.active)) scene
      let run := s.considerAll settings (rules.filter (·.active)) before
      ⟨.ok (.ofVerdicts rules.length (scene.fired.size - before.fired.size) run.value), run.events, run.world⟩ := by
  have loaded : ((s.withRules rules).rules scene.world).value = .ok rules := rfl
  rw [tick_of_loaded loaded]
  simp only [considerAll_withRules]
  rfl

/-- The opening of a tick forgets the same rules whether one more rule is active or not, but for that one. -/
theorem opened_agrees (before after : List Rule) (rule : Rule) (scene : Scene σ) :
    (opened settings (before ++ rule :: after) scene).AgreesBut rule.id (opened settings (before ++ after) scene) := by
  refine ⟨?_, rfl⟩
  simp only [opened]
  split
  · refine .retain (fun id differs => ?_) scene.fired
    simp [List.map_append, differs]
  · exact fun _ _ => rfl

/-- The passes of two ticks, one with and one without a rule that does not fire. -/
theorem pass_without_silent (still : ∀ world, s.elapse world = world) {rule : Rule} {before after : List Rule}
    (unique : ∀ other ∈ before ++ after, other.id ≠ rule.id) (scene : Scene σ) :
    let pass (rules : List Rule) :=
      s.considerAll settings (rules.filter (·.active)) (opened settings (rules.filter (·.active)) scene)
    (∀ verdict, (rule.id, verdict) ∈ (pass (before ++ rule :: after)).value → verdict.isFired = false) →
      SameFirings rule.id (pass (before ++ rule :: after)) (pass (before ++ after)) := by
  intro pass quiet
  have rest : (before ++ after).filter (·.active) = before.filter (·.active) ++ after.filter (·.active) :=
    List.filter_append ..
  cases active : rule.active with
  | false =>
      have same : (before ++ rule :: after).filter (·.active) = (before ++ after).filter (·.active) := by
        simp [active]
      simp only [pass, same]
      exact ⟨rfl, rfl, fun _ _ => rfl, rfl⟩
  | true =>
      have split : (before ++ rule :: after).filter (·.active) =
          before.filter (·.active) ++ rule :: after.filter (·.active) := by
        simp [active]
      simp only [pass, split, rest] at quiet ⊢
      have agrees := opened_agrees settings (before.filter (·.active)) (after.filter (·.active)) rule scene
      refine considerAll_without_silent settings still (fun other member => ?_) agrees quiet
      rw [← rest] at member
      exact unique other (List.mem_filter.mp member).1

/-- A rule that does not fire, for whatever reason, changes nothing for the others: without it the tick fires the same
rules with the same failures, attempts the same effects, and ends in the same world with the same knowledge of every
other rule. -/
theorem tick_ignores_silent_rule (s : Surroundings σ) (settings : EngineSettings) (scene : Scene σ)
    (still : ∀ world, s.elapse world = world) {before after : List Rule} {rule : Rule}
    (unique : ∀ other ∈ before ++ after, other.id ≠ rule.id) {report : TickReport}
    (reported : ((s.withRules (before ++ rule :: after)).tick settings scene).value = .ok report)
    (silent : rule.id ∉ report.fired) :
    let whole := (s.withRules (before ++ rule :: after)).tick settings scene
    let rest := (s.withRules (before ++ after)).tick settings scene
    (∃ other, rest.value = .ok other ∧ other.fired = report.fired ∧
      other.actionFailures = report.actionFailures) ∧
    rest.effects = whole.effects ∧ rest.world.world = whole.world.world ∧
    ∀ id, id ≠ rule.id → rest.world.fired.lastFired id = whole.world.fired.lastFired id := by
  intro whole rest
  have wholeRun : whole = _ := s.tick_withRules settings (before ++ rule :: after) scene
  have restRun : rest = _ := s.tick_withRules settings (before ++ after) scene
  rw [s.tick_withRules] at reported
  cases reported
  have quiet : ∀ verdict, (rule.id, verdict) ∈ (s.considerAll settings ((before ++ rule :: after).filter (·.active))
      (opened settings ((before ++ rule :: after).filter (·.active)) scene)).value → verdict.isFired = false := by
    intro verdict member
    refine Bool.eq_false_iff.mpr fun fired => silent ?_
    exact List.mem_map.mpr ⟨_, List.mem_filter.mpr ⟨member, fired⟩, rfl⟩
  have same := pass_without_silent settings still unique scene quiet
  rw [wholeRun, restRun]
  refine ⟨⟨_, rfl, ?_, ?_⟩, same.effects.symm, same.scene.world.symm, ?_⟩
  · exact congrArg (List.map (·.1)) same.fired.symm
  · exact same.actionFailures.symm
  · exact fun id differs => (same.scene.fired id differs).symm

end Surroundings

def lampRule : Rule := houseRule 1 (.status "off") (.command lampOn) true

def cellarRule : Rule := houseRule 2 (.composite .or [⟨some ⟨"cellar"⟩, .status "dry"⟩]) (.command lampOn) true

def hallRule : Rule := houseRule 3 (.status "on") (.notification "lit" logChannel) true

/-- The house when the telemetry store says nothing about the cellar. -/
def darkHouse : Scene World := ⟨.empty, house.setFailing ⟨"cellar"⟩ true⟩

/-- The rule that asks about the cellar fails, between one that lights the lamp and one that waits for that. -/
theorem tick_ignores_silent_rule_of_cellar :
    let whole := (World.surroundings.withRules [lampRule, cellarRule, hallRule]).tick {} darkHouse
    let rest := (World.surroundings.withRules [lampRule, hallRule]).tick {} darkHouse
    (∀ world, World.surroundings.elapse world = world) ∧
    whole.value = .ok ⟨3, 0, 3, [lampRule.id, hallRule.id], 0, 1, 0⟩ ∧
    (∃ report, rest.value = .ok report ∧ report.fired = [lampRule.id, hallRule.id] ∧ report.actionFailures = 0) ∧
    rest.effects = [.publish ⟨"lamp"⟩ lampOn, .notify "lit"] ∧
    rest.world.world.telemetry.telemetry.status ⟨"lamp"⟩ = .ok (some "on") ∧
    rest.world.fired.lastFired hallRule.id = some .epoch := by
  have still : ∀ world, World.surroundings.elapse world = world := fun _ => rfl
  have unique : ∀ other ∈ [lampRule] ++ [hallRule], other.id ≠ cellarRule.id := by decide
  have reported : ((World.surroundings.withRules [lampRule, cellarRule, hallRule]).tick {} darkHouse).value =
      .ok ⟨3, 0, 3, [lampRule.id, hallRule.id], 0, 1, 0⟩ := rfl
  have silent : cellarRule.id ∉ [lampRule.id, hallRule.id] := by decide
  obtain ⟨fired, effects, world, known⟩ :=
    World.surroundings.tick_ignores_silent_rule {} darkHouse still unique reported silent
  refine ⟨still, reported, fired, effects, ?_, known hallRule.id (by decide)⟩
  exact congrArg (fun left : World => left.telemetry.telemetry.status ⟨"lamp"⟩) world

end DeviceRules
