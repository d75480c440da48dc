import DeviceRules.Proofs.Decimal.Sign
import DeviceRules.Proofs.Engine.Order
import DeviceRules.Proofs.Time.Passing

/-! The time that a tick takes. When only pauses move the clock, each rule of a tick begins as much later than the tick
as the actions of the rules that fired before it pause, is noted when its own action has paused in full, and the tick
ends when all of them have. A pause below a step counts like any other, whatever came of the steps before it. -/
namespace DeviceRules

def Effect.pause? : Effect → Option Duration
  | wait duration => some duration
  | _ => none

namespace Action

/-- The pause that a node is by itself. -/
def pause? : Action → Option Duration
  | delay seconds => some (.ofSeconds seconds)
  | _ => none

def pauses (action : Action) : List Duration := (action.leaves none).filterMap fun leaf => leaf.node.pause?

theorem pauses_of_leaf {action : Action} (leaf : action.isLeaf = true) : action.pauses = action.pause?.toList := by
  cases action with
  | sequence steps => contradiction
  | _ => rfl

theorem ownEffect?_pause? (action : Action) (device : Option DeviceId) :
    (action.ownEffect? device).bind Effect.pause? = action.pause? := by
  cases action with
  | command body => cases device <;> rfl
  | notification message channel =>
      simp only [ownEffect?]
      split <;> rfl
  | webhook | delay | sequence | unsupported => rfl

theorem effects_pauses_of_leaf {action : Action} (leaf : action.isLeaf = true) (device : Option DeviceId) :
    (action.effects device).filterMap Effect.pause? = action.pauses := by
  rw [effects_of_leaf leaf, pauses_of_leaf leaf, ← ownEffect?_pause? action device]
  cases action.ownEffect? device with
  | none => rfl
  | some effect => cases effect <;> rfl

/-- The pauses that an action attempts are all that it has. -/
theorem effects_pauses (action : Action) (device : Option DeviceId) :
    (action.effects device).filterMap Effect.pause? = action.pauses := by
  cases action with
  | sequence steps => simp only [effects, pauses, leaves, List.filterMap_filterMap, ownEffect?_pause?]
  | _ => exact effects_pauses_of_leaf rfl device

end Action

namespace Duration

/-- A number of seconds below zero is no pause. -/
theorem ofSeconds_of_neg {seconds : Float} (negative : seconds < 0) : ofSeconds seconds = .zero := by
  refine if_neg fun positive => ?_
  cases (Double.sign?_of_neg negative).symm.trans (Double.sign?_of_pos positive)

/-- The nanoseconds that some pauses last together, when each of them lasts as long as `lasts` says. -/
def total (lasts : Duration → Nat) (pauses : List Duration) : Nat := (pauses.map lasts).sum

theorem total_append (lasts : Duration → Nat) (first rest : List Duration) :
    total lasts (first ++ rest) = total lasts first + total lasts rest := by
  rw [total, List.map_append, List.sum_append]
  rfl

end Duration

def Entry.pausesOf {σ : Type} (entries : List (Entry σ)) : List Duration :=
  entries.flatMap fun entry => entry.rule.action.pauses

theorem Entry.pausesOf_append {σ : Type} (first rest : List (Entry σ)) :
    pausesOf (first ++ rest) = pausesOf first ++ pausesOf rest :=
  List.flatMap_append

namespace Surroundings

open Duration (total total_append)
open Entry (pausesOf pausesOf_append)

variable {σ : Type} {s : Surroundings σ} {settings : EngineSettings} {lasts : Duration → Nat}

/-- Only pauses move the clock, each by the nanoseconds that it lasts, as long as that keeps the clock in range. A
pause lasts its duration when the timer is exact; the simulated timer goes off at whole milliseconds. -/
structure MovedByPauses (s : Surroundings σ) (lasts : Duration → Nat) : Prop where
  keeps : s.Keeps s.now
  wait : ∀ duration world later,
    (s.now world).plus? (lasts duration) = some later → s.now (s.wait duration world) = later
  rest : lasts .zero = 0

namespace MovedByPauses

variable (moved : s.MovedByPauses lasts)
include moved

theorem now_worldAfter (effects : List Effect) : ∀ {world : σ} {later : Instant},
    (s.now world).plus? (total lasts (effects.filterMap Effect.pause?)) = some later →
      s.now (s.worldAfter effects world) = later := by
  induction effects with
  | nil =>
      intro world later found
      exact Instant.eq_of_plus?_zero found
  | cons effect rest ih =>
      intro world later found
      -- Any other effect leaves the clock to the effects after it.
      have still (prompt : ∀ duration, effect ≠ .wait duration)
          (found : (s.now world).plus? (total lasts (rest.filterMap Effect.pause?)) = some later) :
          s.now (s.worldAfter (effect :: rest) world) = later :=
        ih (by rw [moved.keeps.call prompt]; exact found)
      cases effect with
      | publish | request | notify => exact still nofun found
      | wait duration =>
          obtain ⟨middle, paused, found⟩ := Instant.plus?_add.mp found
          have now : s.now (s.call (.wait duration) world) = middle := moved.wait duration world middle paused
          exact ih (by rw [now]; exact found)

/-- An action takes as long as all its pauses. -/
theorem now_execute {action : Action} {device : Option DeviceId} {world : σ} {later : Instant}
    (found : (s.now world).plus? (total lasts action.pauses) = some later) :
    s.now (s.execute device action world).world = later := by
  rw [(s.execute_effects action device world).2]
  exact moved.now_worldAfter _ (by rw [Action.effects_pauses]; exact found)

theorem start_eq (scene : Scene σ) : s.start scene = s.now scene.world := moved.keeps.elapse scene.world

/-- The instant noted for an entry that fires is the one at which its turn begins, moved by the pauses of its action. -/
theorem noted_eq {entry : Entry σ} {later : Instant}
    (found : (s.now entry.scene.world).plus? (total lasts entry.rule.action.pauses) = some later) :
    s.noted entry = later := by
  rw [noted, moved.keeps.elapse]
  refine moved.now_execute ?_
  rw [← found]
  exact congrArg (Instant.plus? · _) (moved.keeps.elapse entry.scene.world)

end MovedByPauses

def firings (s : Surroundings σ) (settings : EngineSettings) (rules : List Rule) (scene : Scene σ) : List (Entry σ) :=
  (s.entries settings rules scene).filter (s.fires settings)

theorem firings_append (before rest : List Rule) (scene : Scene σ) :
    s.firings settings (before ++ rest) scene =
      s.firings settings before scene ++ s.firings settings rest (s.afterTurns settings before scene) := by
  rw [firings, entries_append, List.filter_append]
  rfl

theorem firings_cons (rule : Rule) (rest : List Rule) (scene : Scene σ) :
    s.firings settings (rule :: rest) scene =
      [⟨rule, scene⟩].filter (s.fires settings) ++ s.firings settings rest (s.leave settings ⟨rule, scene⟩) :=
  List.filter_append [_] _

/-- A turn takes as long as the pauses of its action if it fires, and no time otherwise. -/
theorem MovedByPauses.now_leave (moved : s.MovedByPauses lasts) {entry : Entry σ} {later : Instant}
    (found : (s.now entry.scene.world).plus?
      (total lasts (pausesOf ([entry].filter (s.fires settings)))) = some later) :
    s.now (s.leave settings entry).world = later := by
  cases fires : s.fires settings entry with
  | true =>
      rw [leave_of_fires fires]
      refine moved.noted_eq ?_
      simpa [fires, pausesOf] using found
  | false =>
      have same : later = s.now entry.scene.world := by
        simp only [fires, List.filter_cons, List.filter_nil, Bool.false_eq_true, if_false] at found
        exact (Instant.eq_of_plus?_zero found).symm
      rw [leave_of_silent fires, same]
      split
      · exact moved.keeps.elapse _
      · rfl

/-- The turns of some rules take as long as the pauses of those that fire. -/
theorem MovedByPauses.now_afterTurns (moved : s.MovedByPauses lasts) (rules : List Rule) :
    ∀ {scene : Scene σ} {later : Instant},
      (s.now scene.world).plus? (total lasts (pausesOf (s.firings settings rules scene))) = some later →
        s.now (s.afterTurns settings rules scene).world = later := by
  induction rules with
  | nil =>
      intro scene later found
      exact Instant.eq_of_plus?_zero found
  | cons rule rest ih =>
      intro scene later found
      rw [firings_cons, pausesOf_append, total_append] at found
      obtain ⟨middle, turn, others⟩ := Instant.plus?_add.mp found
      refine ih ?_
      rw [moved.now_leave turn]
      exact others

/-- A tick lasts as long as the pauses of the actions that it carries out. The turn of a rule begins at the start of the
tick, moved by the pauses of the rules that fired before it: by that instant it is due or not, and at that instant its
condition is evaluated. Its firing is noted for that instant moved by all pauses of its own action. A pause of less than
no time counts as none. -/
theorem tick_lasts_as_its_pauses (moved : s.MovedByPauses lasts) (settings : EngineSettings) (scene : Scene σ)
    {rules : List Rule} (loaded : (s.rules scene.world).value = .ok rules) {stop : Instant}
    (inRange : (s.now scene.world).plus? (total lasts (pausesOf
      (s.firings settings rules (opened settings (rules.filter (·.active)) scene)))) = some stop) :
    let opening := opened settings (rules.filter (·.active)) scene
    let outcome := s.tick settings scene
    (∃ report, outcome.value = .ok report ∧
      report.fired = (s.firings settings rules opening).map (·.rule.id)) ∧
    outcome.world = s.afterTurns settings rules opening ∧
    s.now outcome.world.world = stop ∧
    (∀ before rule after, rules = before ++ rule :: after →
      let entry : Entry σ := ⟨rule, s.afterTurns settings before opening⟩
      ∃ now, (s.now scene.world).plus? (total lasts (pausesOf (s.firings settings before opening))) = some now ∧
        s.due settings rule entry.scene =
          entry.scene.fired.isDue rule.id (rule.trigger.interval settings.defaultMinInterval) now ∧
        s.judgement rule entry.scene =
          rule.trigger.condition.evaluate (s.telemetry (s.enter entry.scene).world)
            ⟨now, s.localTime (s.enter entry.scene).world, entry.scene.fired.lastFired rule.id⟩
            rule.triggerDevice.target? ∧
        (s.fires settings entry = true → ∃ noted, now.plus? (total lasts rule.action.pauses) = some noted ∧
          (s.leave settings entry).fired.lastFired rule.id = some noted)) ∧
    ∀ seconds : Float, seconds < 0 → lasts (.ofSeconds seconds) = 0 := by
  intro opening outcome
  have run : outcome = _ := tick_of_loaded loaded
  have world : outcome.world = s.afterTurns settings rules opening := by
    rw [run]
    exact congrArg Outcome.world (s.considerAll_entries settings rules opening)
  refine ⟨?_, world, ?_, ?_, ?_⟩
  · rw [run]
    exact ⟨_, rfl, s.considerAll_fired settings rules opening⟩
  · rw [world]
    exact moved.now_afterTurns rules inRange
  · rintro before rule after rfl entry
    rw [firings_append, pausesOf_append, total_append] at inRange
    obtain ⟨now, reached, further⟩ := Instant.plus?_add.mp inRange
    have clock : s.now entry.scene.world = now := moved.now_afterTurns before reached
    have start : s.start entry.scene = now := (moved.start_eq entry.scene).trans clock
    refine ⟨now, reached, ?_, ?_, ?_⟩
    · rw [due, start]
    · rw [judgement, moment, start]
    · intro fires
      rw [firings_cons, pausesOf_append, total_append, List.filter_cons_of_pos fires] at further
      obtain ⟨noted, paused, _⟩ := Instant.plus?_add.mp further
      rw [List.filter_nil, pausesOf, List.flatMap_singleton] at paused
      refine ⟨noted, paused, ?_⟩
      rw [leave_of_fires fires, FireState.lastFired_record, if_pos rfl, moved.noted_eq (by rw [clock]; exact paused)]
  · intro seconds negative
    rw [Duration.ofSeconds_of_neg negative, moved.rest]

end Surroundings

namespace World

def running : Surroundings World :=
  { surroundings with
    wait := fun duration world => { world with clockMoves := true }.pass (pauseMillis duration) }

/-- Its clock moves by whole milliseconds. -/
theorem running_movedByPauses : running.MovedByPauses fun duration => pauseMillis duration * 1000000 where
  keeps := {
    elapse := fun _ => rfl
    publish := by
      intro device command world
      simp only [running, surroundings, publish]
      split <;> rfl
    send := by
      intro request world
      simp only [running, surroundings, send]
      split <;> rfl }
  wait := by
    intro duration world later found
    have ahead : (0 : Int) ≤ (pauseMillis duration : Int) := Int.natCast_nonneg _
    simp only [running, surroundings, pass, advance, if_true, if_pos ahead, Int.toNat_natCast]
    exact congrArg (Option.getD · _) found
  rest := rfl

end World

/-- A siren that sounds for a minute and half a second, though a step in between cannot be carried out. -/
def sirenRule : Rule :=
  houseRule 1 (.status "off") (.sequence
    [⟨none, .delay 60⟩, ⟨none, .unsupported none .noAction⟩,
      ⟨none, .sequence [⟨none, .delay (-5)⟩, ⟨none, .delay 0.5⟩]⟩]) true

def echoRule : Rule := houseRule 2 (.time (.interval 1 none)) (.delay 1.5) true

def sirenHouse : World := { house with rules := .everything [sirenRule, echoRule] }

def afterMillis (millis : Int) : Instant := (Instant.ofMillis? millis).getD .epoch

/-- The tick lasts as long as both rules pause, and the second one begins when the first has sounded. -/
theorem tick_lasts_as_its_pauses_of_siren :
    let lasts (duration : Duration) := World.pauseMillis duration * 1000000
    let pauses (entries : List (Entry World)) := Duration.total lasts (Entry.pausesOf entries)
    let rules := [sirenRule, echoRule]
    let scene : Scene World := ⟨.empty, sirenHouse⟩
    let outcome := World.running.tick {} scene
    (World.running.rules sirenHouse).value = .ok rules ∧
    Instant.epoch.plus? (pauses (World.running.firings {} rules scene)) = some (afterMillis 62000) ∧
    World.running.now outcome.world.world = afterMillis 62000 ∧
    Instant.epoch.plus? (pauses (World.running.firings {} [sirenRule] scene)) = some (afterMillis 60500) ∧
    outcome.world.fired.lastFired echoRule.id = some (afterMillis 62000) ∧
    (-5 : Float) < 0 ∧ lasts (.ofSeconds (-5)) = 0 := by
  intro lasts pauses rules scene outcome
  have loaded : (World.running.rules sirenHouse).value = .ok rules := rfl
  have inRange : Instant.epoch.plus? (pauses (World.running.firings {} rules scene)) = some (afterMillis 62000) := by
    decide +kernel
  have minute : Instant.epoch.plus? (pauses (World.running.firings {} [sirenRule] scene)) =
      some (afterMillis 60500) := by
    decide +kernel
  have echo : (afterMillis 60500).plus? (Duration.total lasts echoRule.action.pauses) =
      some (afterMillis 62000) := by
    decide +kernel
  have negative : (-5 : Float) < 0 := by decide
  obtain ⟨-, world, stop, turns, below⟩ :=
    Surroundings.tick_lasts_as_its_pauses World.running_movedByPauses {} scene loaded inRange
  obtain ⟨now, begins, -, -, fires⟩ := turns [sirenRule] echoRule [] rfl
  cases Option.some.inj (begins.symm.trans minute)
  obtain ⟨noted, paused, known⟩ := fires (by decide +kernel)
  cases Option.some.inj (paused.symm.trans echo)
  refine ⟨loaded, inRange, stop, minute, ?_, negative, below (-5) negative⟩
  rw [world]
  exact known

end DeviceRules
