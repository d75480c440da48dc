import DeviceRules.Condition.Decode
import DeviceRules.Proofs.Engine.History
import DeviceRules.Simulation.World

/-! The rate limit over whole runs. What the engine has noted of a firing stays until the rule fires again or is
evicted, whatever else happens, so the next firing is measured against it. -/
namespace DeviceRules

/-- The rate limit that a document asks for: its number of seconds, or `absent` seconds when there is none, when it is
no number and when it is negative. -/
def Trigger.requestedInterval (document : Json) (absent : UInt64) : Duration :=
  match (document.get? "min_interval_seconds").bind Json.float? with
  | some seconds => if 0 ≤ seconds then .ofSeconds seconds else .ofWholeSeconds absent
  | none => .ofWholeSeconds absent

theorem Trigger.interval_ofJson (document : Json) (absent : UInt64) :
    (Trigger.ofJson document).interval absent = requestedInterval document absent := by
  unfold interval requestedInterval
  change (match minIntervalOf document with | some seconds => _ | none => _) = _
  unfold minIntervalOf
  rw [Option.bind_eq_bind]
  cases (document.get? "min_interval_seconds").bind Json.float? with
  | none => rfl
  | some seconds =>
      by_cases asked : 0 ≤ seconds
      · simp [Option.filter, asked]
      · simp [Option.filter, asked]

variable {settings : EngineSettings} {fired next : FireState} {id : RuleId} {time : Instant}

/-- A turn that notes a firing was due and held, and the note replaces the one before. -/
theorem Step.of_noted {t : Turn} (step : Step settings fired (.turn t) next) (noted : t.noted = some time) :
    fired.isDue t.rule.id (t.rule.trigger.interval settings.defaultMinInterval) t.start = true ∧
      (∃ telemetry localTime, (t.rule.trigger.condition.evaluate telemetry
        ⟨t.start, localTime, fired.lastFired t.rule.id⟩ t.rule.triggerDevice.target?).value = .ok true) ∧
      next = fired.record t.rule.id time := by
  cases step with
  | quiet silent => exact absurd (silent.symm.trans noted) (by simp)
  | fires actual due holds =>
      cases Option.some.inj (actual.symm.trans noted)
      exact ⟨due, holds, rfl⟩

/-- The happening neither fires the rule nor evicts it. -/
def Happening.Spares (settings : EngineSettings) (id : RuleId) : Happening → Prop
  | skipped => True
  | loaded active => settings.evictStale = false ∨ id ∈ active
  | turn t => t.rule.id = id → t.noted = none

theorem Step.keeps {happening : Happening} (step : Step settings fired happening next)
    (spares : happening.Spares settings id) (known : fired.lastFired id = some time) :
    next.lastFired id = some time := by
  cases step with
  | skipped => exact known
  | loaded =>
      split
      · rename_i evicts
        have active := spares.resolve_left (by simp [evicts])
        rw [FireState.lastFired_retain, if_pos (List.contains_iff_mem.mpr active)]
        exact known
      · exact known
  | quiet silent => exact known
  | fires noted due holds =>
      rename_i t _
      have other : id ≠ t.rule.id := fun same =>
        absurd ((spares same.symm).symm.trans noted) (by simp)
      rw [FireState.lastFired_record, if_neg other]
      exact known

theorem Steps.keeps {happenings : List Happening} (run : Steps settings fired happenings next)
    (spared : ∀ happening ∈ happenings, happening.Spares settings id) (known : fired.lastFired id = some time) :
    next.lastFired id = some time := by
  induction run with
  | refl => exact known
  | next step _ ih =>
      obtain ⟨here, later⟩ := List.forall_mem_cons.mp spared
      exact ih later (step.keeps here known)

/-- Before the second of two firings, with nothing between that fires or evicts the rule, the engine still knows the
first. -/
theorem Steps.knows_first {last : FireState} {before between after : List Happening} {first second : Turn}
    (run : Steps settings fired (before ++ .turn first :: (between ++ .turn second :: after)) last)
    (noted : first.noted = some time)
    (spared : ∀ happening ∈ between, happening.Spares settings first.rule.id) :
    ∃ known fired, known.lastFired first.rule.id = some time ∧ Step settings known (.turn second) fired := by
  obtain ⟨opening, _, run⟩ := append_iff.mp run
  obtain ⟨recorded, firing, run⟩ := cons_iff.mp run
  obtain ⟨known, quiet, run⟩ := append_iff.mp run
  obtain ⟨fired, step, _⟩ := cons_iff.mp run
  obtain ⟨_, _, rfl⟩ := firing.of_noted noted
  have fresh : (opening.record first.rule.id time).lastFired first.rule.id = some time := by
    rw [FireState.lastFired_record, if_pos rfl]
  exact ⟨known, fired, quiet.keeps spared fresh, step⟩

/-- Two consecutive firings of a rule are as far apart as the trigger of the second one asks, from the end of the first
to the start of the second, unless the rule was evicted in between. -/
theorem firings_keep_interval {σ : Type} (s : Surroundings σ) (settings : EngineSettings) (fired : FireState)
    (worlds : List σ) {before between after : List Happening} {first second : Turn} {time : Instant}
    (split : s.history settings fired worlds = before ++ .turn first :: (between ++ .turn second :: after))
    (noted : first.noted = some time) (again : second.noted.isSome = true)
    (same : second.rule.id = first.rule.id)
    (consecutive : ∀ t, .turn t ∈ between → t.rule.id = first.rule.id → t.noted = none)
    (kept : settings.evictStale = false ∨ ∀ active, .loaded active ∈ between → first.rule.id ∈ active) :
    ((second.rule.trigger.interval settings.defaultMinInterval).nanos : Int) ≤ second.start.since time ∧
    ∀ document, second.rule.trigger = .ofJson document →
      second.rule.trigger.interval settings.defaultMinInterval =
        Trigger.requestedInterval document settings.defaultMinInterval := by
  have spared : ∀ happening ∈ between, happening.Spares settings first.rule.id := by
    intro happening inside
    cases happening with
    | skipped => trivial
    | loaded active => exact kept.imp id fun all => all active inside
    | turn t => exact consecutive t inside
  have run := s.history_steps settings worlds fired
  rw [split] at run
  obtain ⟨known, _, remembered, step⟩ := run.knows_first noted spared
  obtain ⟨_, noted_again⟩ := Option.isSome_iff_exists.mp again
  obtain ⟨due, _, _⟩ := step.of_noted noted_again
  rw [← same] at remembered
  constructor
  · exact (known.isDue_iff _ _ _).mp due time remembered
  · intro document read
    rw [read, Trigger.interval_ofJson]

def porch : Rule where
  id := default
  name := "porch"
  description := none
  triggerDevice := ⟨""⟩
  trigger := ⟨none, .composite .and []⟩
  actionDevice := ⟨""⟩
  action := .notification "still there" logChannel
  active := true
  owner := ⟨default⟩
  createdAt := .epoch

def porchWorld (millis : Int) : World :=
  { (World.memory .epoch).advance millis with rules := .memory ⟨[porch]⟩ }

/-- It fires at once and after half a minute, the default rate limit. In between the rules cannot be loaded in one
tick, and the next one comes too early. -/
theorem firings_keep_interval_of_porch :
    let ticks := [porchWorld 0, { porchWorld 10000 with rulesDown := true }, porchWorld 20000, porchWorld 30000]
    let turn (millis : Int) : Option Instant → Turn := Turn.mk porch (porchWorld millis).clock
    let second := turn 30000 (some (porchWorld 30000).clock)
    World.surroundings.history {} .empty ticks =
      [.loaded [porch.id], .turn (turn 0 (some .epoch)), .skipped, .loaded [porch.id], .turn (turn 20000 none),
        .loaded [porch.id], .turn second] ∧
    (30 * nanosPerSecond : Int) ≤ second.start.since .epoch := by
  intro ticks turn second
  let first := turn 0 (some .epoch)
  let between : List Happening := [.skipped, .loaded [porch.id], .turn (turn 20000 none), .loaded [porch.id]]
  have split : World.surroundings.history {} .empty ticks =
      [.loaded [porch.id]] ++ .turn first :: (between ++ [.turn second]) := rfl
  have quiet : ∀ t, .turn t ∈ between → t.rule.id = first.rule.id → t.noted = none := by
    simp [between, turn]
  have active : ∀ ids, .loaded ids ∈ between → first.rule.id ∈ ids := by
    simp [between, first, turn]
  exact ⟨split, (firings_keep_interval _ _ _ _ split rfl rfl rfl quiet (.inr active)).1⟩

end DeviceRules
