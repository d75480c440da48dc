import DeviceRules.Engine.Tick
import DeviceRules.Proofs.Engine.FireState

/-! The history of a run: tick after tick, what was loaded and what came of each turn of a rule. Between two ticks
the world changes at will, and so do its clock, its stores and its channels. The fire state goes through the history
by a few kinds of steps, which say all that it depends on. -/
namespace DeviceRules

/-- A turn of a rule in a tick: what the clock shows at its start, and the instant noted for it if it fires. -/
structure Turn where
  rule : Rule
  start : Instant
  noted : Option Instant

inductive Happening
  /-- The rules could not be loaded. -/
  | skipped
  /-- A tick begins with these active rules. -/
  | loaded (active : List RuleId)
  | turn (turn : Turn)

def Happening.fired? : Happening → Option RuleId
  | turn t => t.noted.map fun _ => t.rule.id
  | _ => none

namespace Surroundings

variable {σ : Type} (s : Surroundings σ) (settings : EngineSettings)

def enter (scene : Scene σ) : Scene σ := { scene with world := s.elapse scene.world }

def start (scene : Scene σ) : Instant := s.now (s.enter scene).world

def due (rule : Rule) (scene : Scene σ) : Bool :=
  scene.fired.isDue rule.id (rule.trigger.interval settings.defaultMinInterval) (s.start scene)

def moment (rule : Rule) (scene : Scene σ) : Moment :=
  ⟨s.start scene, s.localTime (s.enter scene).world, scene.fired.lastFired rule.id⟩

/-- What the condition of a rule comes to in its turn. -/
def judgement (rule : Rule) (scene : Scene σ) : Traced (Except Fault Bool) :=
  rule.trigger.condition.evaluate (s.telemetry (s.enter scene).world) (s.moment rule scene) rule.triggerDevice.target?

variable {s settings} {rule : Rule} {scene : Scene σ}

theorem consider_of_not_due (early : s.due settings rule scene = false) :
    s.consider settings rule scene = ⟨.rateLimited, [], s.enter scene⟩ :=
  if_neg (by rw [← Bool.not_eq_true] at early; exact early)

theorem consider_of_due (due : s.due settings rule scene = true) :
    s.consider settings rule scene =
      match (s.judgement rule scene).value with
      | .ok true =>
          let run := s.fire rule (s.enter scene)
          ⟨run.value, (s.judgement rule scene).events ++ run.events, run.world⟩
      | .ok false => ⟨.notMet, (s.judgement rule scene).events, s.enter scene⟩
      | .error fault =>
          ⟨if fault.isConfiguration then .notMet else .failed,
            (s.judgement rule scene).events ++ [.conditionFailed fault], s.enter scene⟩ :=
  if_pos due

/-- A turn fires a rule that is due and whose condition holds, and leaves the fire state alone otherwise. -/
theorem consider_cases (s : Surroundings σ) (settings : EngineSettings) (rule : Rule) (scene : Scene σ) :
    (s.due settings rule scene = true ∧ (s.judgement rule scene).value = .ok true ∧
      (s.consider settings rule scene).value.isFired = true ∧
      (s.consider settings rule scene).world.fired =
        scene.fired.record rule.id (s.now (s.consider settings rule scene).world.world)) ∨
    ((s.due settings rule scene = false ∨ (s.judgement rule scene).value ≠ .ok true) ∧
      (s.consider settings rule scene).value.isFired = false ∧
      (s.consider settings rule scene).world = s.enter scene) := by
  cases due : s.due settings rule scene with
  | false =>
      rw [consider_of_not_due due]
      exact .inr ⟨.inl rfl, rfl, rfl⟩
  | true =>
      rw [consider_of_due due]
      cases judged : (s.judgement rule scene).value with
      | error fault =>
          refine .inr ⟨.inr (by simp), ?_, rfl⟩
          simp only
          split <;> rfl
      | ok holds =>
          cases holds with
          | false => exact .inr ⟨.inr (by simp), rfl, rfl⟩
          | true => exact .inl ⟨rfl, rfl, rfl, rfl⟩

variable (s settings)

def turn (rule : Rule) (scene : Scene σ) : Turn where
  rule := rule
  start := s.start scene
  noted :=
    let run := s.consider settings rule scene
    if run.value.isFired then some (s.now run.world.world) else none

def turns : List Rule → Scene σ → List Turn
  | [], _ => []
  | rule :: rest, scene => s.turn settings rule scene :: turns rest (s.consider settings rule scene).world

/-- The scene in which a tick over some active rules begins. -/
def opened (active : List Rule) (scene : Scene σ) : Scene σ :=
  { scene with fired := if settings.evictStale then scene.fired.retain (active.map (·.id)) else scene.fired }

def happenings (scene : Scene σ) : List Happening :=
  match (s.rules scene.world).value with
  | .error _ => [.skipped]
  | .ok rules =>
      let active := rules.filter (·.active)
      .loaded (active.map (·.id)) :: (s.turns settings active (opened settings active scene)).map .turn

/-- What happens in some ticks, each of which begins in a world of its own. -/
def history (fired : FireState) : List σ → List Happening
  | [] => []
  | world :: worlds =>
      s.happenings settings ⟨fired, world⟩ ++ history (s.tick settings ⟨fired, world⟩).world.fired worlds

def firedAfter (fired : FireState) : List σ → FireState
  | [] => fired
  | world :: worlds => firedAfter (s.tick settings ⟨fired, world⟩).world.fired worlds

end Surroundings

namespace Surroundings

variable {σ : Type} {s : Surroundings σ} {settings : EngineSettings} {scene : Scene σ}

theorem tick_of_outage {outage : Outage} (failed : (s.rules scene.world).value = .error outage) :
    s.tick settings scene = ⟨.error outage, (s.rules scene.world).events, scene⟩ := by
  simp only [tick, failed]

theorem tick_of_loaded {rules : List Rule} (loaded : (s.rules scene.world).value = .ok rules) :
    s.tick settings scene =
      let before := opened settings (rules.filter (·.active)) scene
      let run := s.considerAll settings (rules.filter (·.active)) before
      ⟨.ok (.ofVerdicts rules.length (scene.fired.size - before.fired.size) run.value),
        (s.rules scene.world).events ++ run.events, run.world⟩ := by
  simp only [tick, loaded, opened]

theorem happenings_of_outage {outage : Outage} (failed : (s.rules scene.world).value = .error outage) :
    s.happenings settings scene = [.skipped] := by
  simp only [happenings, failed]

theorem happenings_of_loaded {rules : List Rule} (loaded : (s.rules scene.world).value = .ok rules) :
    s.happenings settings scene =
      .loaded ((rules.filter (·.active)).map (·.id)) ::
        (s.turns settings (rules.filter (·.active)) (opened settings (rules.filter (·.active)) scene)).map .turn := by
  simp only [happenings, loaded]

end Surroundings

/-- What one happening does to the fire state. -/
inductive Step (settings : EngineSettings) : FireState → Happening → FireState → Prop
  | skipped {fired} : Step settings fired .skipped fired
  | loaded {fired active} :
      Step settings fired (.loaded active) (if settings.evictStale then fired.retain active else fired)
  | quiet {fired t} (silent : t.noted = none) : Step settings fired (.turn t) fired
  | fires {fired t time} (noted : t.noted = some time)
      (due : fired.isDue t.rule.id (t.rule.trigger.interval settings.defaultMinInterval) t.start = true)
      (holds : ∃ telemetry localTime, (t.rule.trigger.condition.evaluate telemetry
        ⟨t.start, localTime, fired.lastFired t.rule.id⟩ t.rule.triggerDevice.target?).value = .ok true) :
      Step settings fired (.turn t) (fired.record t.rule.id time)

inductive Steps (settings : EngineSettings) : FireState → List Happening → FireState → Prop
  | refl (fired) : Steps settings fired [] fired
  | next {fired first middle rest last} : Step settings fired first middle → Steps settings middle rest last →
      Steps settings fired (first :: rest) last

namespace Steps

variable {settings : EngineSettings} {fired middle last : FireState} {first rest : List Happening}

theorem trans (run : Steps settings fired first middle) (others : Steps settings middle rest last) :
    Steps settings fired (first ++ rest) last := by
  induction run with
  | refl => exact others
  | next step _ ih => exact .next step (ih others)

theorem cons_iff {happening : Happening} : Steps settings fired (happening :: rest) last ↔
    ∃ middle, Step settings fired happening middle ∧ Steps settings middle rest last := by
  constructor
  · intro run
    cases run with
    | next step others => exact ⟨_, step, others⟩
  · rintro ⟨middle, step, others⟩
    exact .next step others

theorem append_iff : Steps settings fired (first ++ rest) last ↔
    ∃ middle, Steps settings fired first middle ∧ Steps settings middle rest last := by
  constructor
  · intro run
    induction first generalizing fired with
    | nil => exact ⟨fired, .refl _, run⟩
    | cons happening first ih =>
        obtain ⟨next, step, run⟩ := cons_iff.mp run
        obtain ⟨middle, run, others⟩ := ih run
        exact ⟨middle, .next step run, others⟩
  · rintro ⟨middle, run, others⟩
    exact run.trans others

end Steps

namespace Surroundings

variable {σ : Type} (s : Surroundings σ) (settings : EngineSettings)

theorem turn_step (rule : Rule) (scene : Scene σ) :
    Step settings scene.fired (.turn (s.turn settings rule scene)) (s.consider settings rule scene).world.fired := by
  rcases s.consider_cases settings rule scene with ⟨due, holds, fired, after⟩ | ⟨_, quiet, after⟩
  · rw [after]
    exact .fires (if_pos fired) due ⟨_, _, holds⟩
  · rw [after]
    exact .quiet (if_neg (by simp [quiet]))

theorem turns_steps (rules : List Rule) : ∀ scene : Scene σ,
    Steps settings scene.fired ((s.turns settings rules scene).map .turn)
      (s.considerAll settings rules scene).world.fired := by
  induction rules with
  | nil => exact fun scene => .refl _
  | cons rule rest ih => exact fun scene => .next (s.turn_step settings rule scene) (ih _)

theorem tick_steps (scene : Scene σ) :
    Steps settings scene.fired (s.happenings settings scene) (s.tick settings scene).world.fired := by
  cases loaded : (s.rules scene.world).value with
  | error outage =>
      rw [happenings_of_outage loaded, tick_of_outage loaded]
      exact .next .skipped (.refl _)
  | ok rules =>
      rw [happenings_of_loaded loaded, tick_of_loaded loaded]
      exact .next .loaded (s.turns_steps settings _ (opened settings (rules.filter (·.active)) scene))

/-- The fire state after a run is the one that its history leads to. -/
theorem history_steps (worlds : List σ) : ∀ fired : FireState,
    Steps settings fired (s.history settings fired worlds) (s.firedAfter settings fired worlds) := by
  induction worlds with
  | nil => exact fun fired => .refl _
  | cons world worlds ih => exact fun fired => (s.tick_steps settings ⟨fired, world⟩).trans (ih _)

theorem turns_fired (rules : List Rule) : ∀ scene : Scene σ,
    ((s.turns settings rules scene).map Happening.turn).filterMap Happening.fired? =
      ((s.considerAll settings rules scene).value.filter (·.2.isFired)).map (·.1) := by
  induction rules with
  | nil => exact fun _ => rfl
  | cons rule rest ih =>
      intro scene
      simp only [turns, considerAll, List.map_cons, List.filterMap_cons, List.filter_cons, ih]
      cases fired : (s.consider settings rule scene).value.isFired <;> simp [Happening.fired?, turn, fired]

/-- The history of a tick fires the rules that the tick reports, in their order. -/
theorem happenings_fired {scene : Scene σ} {report : TickReport}
    (reported : (s.tick settings scene).value = .ok report) :
    (s.happenings settings scene).filterMap Happening.fired? = report.fired := by
  cases loaded : (s.rules scene.world).value with
  | error outage =>
      rw [tick_of_outage loaded] at reported
      contradiction
  | ok rules =>
      rw [tick_of_loaded loaded] at reported
      cases reported
      rw [happenings_of_loaded loaded]
      exact s.turns_fired settings _ _

end Surroundings

end DeviceRules
