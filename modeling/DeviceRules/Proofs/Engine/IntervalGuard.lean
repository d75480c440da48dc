import DeviceRules.Proofs.Engine.RateLimit
import DeviceRules.Proofs.Evaluation.Reached

/-! Conditions that limit the rate of a rule by themselves. An interval that is measured from the last firing holds
only when it has passed, and a conjunction only when all its parts hold, so a rule that is guarded by an interval of
some minutes keeps them between two firings, however short its rate limit is. -/
namespace DeviceRules

namespace Condition

/-- The condition is an interval of these minutes since the last firing, or a conjunction with such a part. -/
inductive IntervalGuarded (minutes : UInt32) : Condition → Prop
  | interval : IntervalGuarded minutes (time (.interval minutes none))
  | conjunct {children : List (Addressed Condition)} {child : Addressed Condition} (inside : child ∈ children)
      (guarded : IntervalGuarded minutes child.node) : IntervalGuarded minutes (composite .and children)

variable {telemetry : Telemetry} {moment : Moment} {device : Option DeviceId}

/-- Every part of a conjunction that holds has come to true by itself: no failure and no misconfiguration counts as
true. -/
theorem evaluate_of_conjunction {children : List (Addressed Condition)}
    (holds : ((composite .and children).evaluate telemetry moment device).value = .ok true) :
    ∀ child ∈ children, (child.node.evaluate telemetry moment child.target?).value = .ok true := by
  simp only [evaluate] at holds
  rcases settle_cases telemetry moment .and children with ⟨passed, _⟩ | ⟨_, child, _, _, _, stops, walk⟩
  · intro child inside
    rcases forgive_ok (passed child inside) with value | ⟨wrong, _⟩
    · exact value
    · contradiction
  · rw [walk] at holds
    exact absurd holds stops

/-- A guarded condition that holds after a firing does so only when the minutes have passed since. -/
theorem IntervalGuarded.passed {minutes : UInt32} {c : Condition} (guarded : c.IntervalGuarded minutes)
    {last : Instant} (fired : moment.lastFired = some last) : ∀ device : Option DeviceId,
    (c.evaluate telemetry moment device).value = .ok true →
      ((minutes.toNat * 60 * nanosPerSecond : Nat) : Int) ≤ moment.now.since last := by
  induction guarded with
  | interval =>
      intro device holds
      simpa [evaluate, TimeCondition.holds, fired] using holds
  | conjunct inside _ ih =>
      intro device holds
      exact ih _ (evaluate_of_conjunction holds _ inside)

end Condition

/-- Between two consecutive firings of a rule that is not evicted, nothing touches what is known of it. -/
theorem Happening.spares_of_consecutive {settings : EngineSettings} {between : List Happening} {id : RuleId}
    (consecutive : ∀ t, .turn t ∈ between → t.rule.id = id → t.noted = none)
    (kept : settings.evictStale = false ∨ ∀ active, .loaded active ∈ between → id ∈ active) :
    ∀ happening ∈ between, happening.Spares settings id := by
  intro happening inside
  cases happening with
  | skipped => trivial
  | loaded active => exact kept.imp_right fun all => all active inside
  | turn t => exact consecutive t inside

section Firings

variable {σ : Type} (s : Surroundings σ) (settings : EngineSettings) (fired : FireState) (worlds : List σ)
  {before between after : List Happening} {first second : Turn} {time : Instant}

/-- When a rule fires again, its condition has held with the firing before as the last one. -/
theorem Surroundings.holds_after_firing
    (split : s.history settings fired worlds = before ++ .turn first :: (between ++ .turn second :: after))
    (noted : first.noted = some time) (again : second.noted.isSome = true)
    (same : second.rule.id = first.rule.id)
    (spared : ∀ happening ∈ between, happening.Spares settings first.rule.id) :
    ∃ telemetry localTime, (second.rule.trigger.condition.evaluate telemetry
      ⟨second.start, localTime, some time⟩ second.rule.triggerDevice.target?).value = .ok true := by
  have run := s.history_steps settings worlds fired
  rw [split] at run
  obtain ⟨known, _, remembered, step⟩ := run.knows_first noted spared
  obtain ⟨_, noted_again⟩ := Option.isSome_iff_exists.mp again
  obtain ⟨_, holds, _⟩ := step.of_noted noted_again
  rw [same, remembered] at holds
  exact holds

/-- Two consecutive firings of a rule are at least as far apart as any interval that guards the condition of the second
one, from the end of the first to the start of the second, unless the rule was evicted in between. -/
theorem firings_keep_guarding_interval
    (split : s.history settings fired worlds = before ++ .turn first :: (between ++ .turn second :: after))
    (noted : first.noted = some time) (again : second.noted.isSome = true)
    (same : second.rule.id = first.rule.id)
    (consecutive : ∀ t, .turn t ∈ between → t.rule.id = first.rule.id → t.noted = none)
    (kept : settings.evictStale = false ∨ ∀ active, .loaded active ∈ between → first.rule.id ∈ active)
    {minutes : UInt32} (guarded : second.rule.trigger.condition.IntervalGuarded minutes) :
    ((minutes.toNat * 60 * nanosPerSecond : Nat) : Int) ≤ second.start.since time := by
  have spared := Happening.spares_of_consecutive consecutive kept
  obtain ⟨telemetry, localTime, holds⟩ := s.holds_after_firing settings fired worlds split noted again same spared
  exact guarded.passed rfl _ holds

end Firings

def lantern : Rule :=
  { porch with
    name := "lantern"
    trigger := ⟨none, .composite .and
      [⟨none, .time (.dayOfWeek [3])⟩, ⟨none, .composite .and [⟨none, .time (.interval 1 none)⟩]⟩]⟩ }

def lanternWorld (millis : Int) : World := { porchWorld millis with rules := .memory ⟨[lantern]⟩ }

/-- It fires at once and after a minute. After forty seconds it is due, but the minute has not passed. -/
theorem firings_keep_guarding_interval_of_lantern :
    let ticks := [lanternWorld 0, lanternWorld 40000, lanternWorld 60000]
    let turn (millis : Int) : Option Instant → Turn := Turn.mk lantern (lanternWorld millis).clock
    let second := turn 60000 (some (lanternWorld 60000).clock)
    World.surroundings.history {} .empty ticks =
      [.loaded [lantern.id], .turn (turn 0 (some .epoch)), .loaded [lantern.id], .turn (turn 40000 none),
        .loaded [lantern.id], .turn second] ∧
    lantern.trigger.condition.IntervalGuarded 1 ∧
    (60 * nanosPerSecond : Int) ≤ second.start.since .epoch := by
  intro ticks turn second
  let first := turn 0 (some .epoch)
  let between : List Happening := [.loaded [lantern.id], .turn (turn 40000 none), .loaded [lantern.id]]
  have split : World.surroundings.history {} .empty ticks =
      [.loaded [lantern.id]] ++ .turn first :: (between ++ [.turn second]) := rfl
  have quiet : ∀ t, .turn t ∈ between → t.rule.id = first.rule.id → t.noted = none := by
    simp [between, turn]
  have active : ∀ ids, .loaded ids ∈ between → first.rule.id ∈ ids := by
    simp [between, first, turn]
  have guarded : lantern.trigger.condition.IntervalGuarded 1 :=
    .conjunct (List.mem_cons_of_mem _ List.mem_cons_self) (.conjunct List.mem_cons_self .interval)
  have minute : (((1 : UInt32).toNat * 60 * nanosPerSecond : Nat) : Int) = 60 * nanosPerSecond := rfl
  rw [← minute]
  exact ⟨split, guarded, firings_keep_guarding_interval _ _ _ _ split rfl rfl rfl quiet (.inr active) guarded⟩

end DeviceRules
