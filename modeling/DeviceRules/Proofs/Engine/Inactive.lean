import DeviceRules.Proofs.Engine.Isolation

/-! Rules that are not active are invisible. A store may hand them over, with identifiers of their own or with those of
active rules: the turns of the others are those that they have without them, and only the number of loaded rules
shows the difference. -/
namespace DeviceRules

namespace Surroundings

variable {σ : Type} (s : Surroundings σ) (settings : EngineSettings)

/-- The active entries of a list have the turns that they have in the list of the active rules alone. -/
theorem entries_active (rules : List Rule) : ∀ scene : Scene σ,
    s.entries settings (rules.filter (·.active)) scene =
      (s.entries settings rules scene).filter (·.rule.active) := by
  induction rules with
  | nil => exact fun _ => rfl
  | cons rule rest ih =>
      intro scene
      cases active : rule.active with
      | false =>
          have untouched : s.leave settings ⟨rule, scene⟩ = scene := if_neg (by simp [active])
          simp only [List.filter_cons, entries, active, untouched, Bool.false_eq_true, if_false, ih]
      | true => simp only [List.filter_cons, entries, active, if_true, ih]

theorem entries_rules (rules : List Rule) : ∀ scene : Scene σ,
    (s.entries settings rules scene).map (·.rule) = rules := by
  induction rules with
  | nil => exact fun _ => rfl
  | cons rule rest ih => exact fun scene => congrArg (rule :: ·) (ih _)

/-- A tick leaves the scene that the turns of its rules leave, one after the other. -/
theorem tick_withRules_world (rules : List Rule) (scene : Scene σ) :
    ((s.withRules rules).tick settings scene).world =
      s.afterTurns settings rules (opened settings (rules.filter (·.active)) scene) := by
  rw [tick_withRules]
  exact congrArg Outcome.world (s.considerAll_entries settings rules _)

variable {settings}

/-- When stale firings are forgotten, a tick leaves none of a rule that it did not find active. -/
theorem lastFired_of_unlisted (evicts : settings.evictStale = true) {rules : List Rule} {id : RuleId}
    (unlisted : ∀ rule ∈ rules, rule.active = true → rule.id ≠ id) (scene : Scene σ) :
    ((s.withRules rules).tick settings scene).world.fired.lastFired id = none := by
  have forgotten : (opened settings (rules.filter (·.active)) scene).fired.lastFired id = none := by
    simp only [opened, evicts, if_true, FireState.lastFired_retain]
    refine if_neg fun kept => ?_
    obtain ⟨rule, member, same⟩ := List.mem_map.mp (List.contains_iff_mem.mp kept)
    obtain ⟨inside, active⟩ := List.mem_filter.mp member
    exact unlisted rule inside active same
  have silent : ((s.entries settings rules (opened settings (rules.filter (·.active)) scene)).filter
      (s.fires settings)).filter (·.rule.id = id) = [] := by
    refine List.filter_eq_nil_iff.mpr fun entry member own => ?_
    obtain ⟨inside, fires⟩ := List.mem_filter.mp member
    have listed : entry.rule ∈ rules := by
      rw [← s.entries_rules settings rules]
      exact List.mem_map_of_mem inside
    exact unlisted entry.rule listed (fires_iff.mp fires).1 (of_decide_eq_true own)
  rw [tick_withRules_world, afterTurns_lastFired, silent, forgotten]
  rfl

/-- Without the rules that are not active a tick loads fewer rules, and all else is the same: every question, effect and
line of the log, the rest of the report, the world and the fire state, and each turn with the scene that it finds. What
was known of a rule that only stands there inactive is forgotten with the stale firings. -/
theorem tick_ignores_inactive_rules (s : Surroundings σ) (settings : EngineSettings) (scene : Scene σ)
    (rules : List Rule) :
    let active := rules.filter (·.active)
    let whole := (s.withRules rules).tick settings scene
    let rest := (s.withRules active).tick settings scene
    (∃ report, whole.value = .ok report ∧ report.rules = rules.length ∧
      rest.value = .ok { report with rules := active.length }) ∧
    rest.queries = whole.queries ∧ rest.effects = whole.effects ∧ rest.events = whole.events ∧
    rest.world = whole.world ∧
    s.entries settings active (opened settings active scene) =
      (s.entries settings rules (opened settings active scene)).filter (·.rule.active) ∧
    (settings.evictStale = true → ∀ id, (∀ rule ∈ rules, rule.active = true → rule.id ≠ id) →
      whole.world.fired.lastFired id = none) := by
  intro active whole rest
  have again : active.filter (·.active) = active := by simp [active, List.filter_filter]
  have wholeRun : whole = _ := s.tick_withRules settings rules scene
  have restRun : rest = _ := s.tick_withRules settings active scene
  rw [again] at restRun
  have events : rest.events = whole.events := by rw [restRun, wholeRun]
  refine ⟨?_, congrArg (List.filterMap _) events, congrArg (List.filterMap _) events, events, ?_, ?_, ?_⟩
  · rw [restRun, wholeRun]
    exact ⟨_, rfl, rfl, rfl⟩
  · rw [restRun, wholeRun]
  · exact s.entries_active settings rules _
  · exact fun evicts id unlisted => s.lastFired_of_unlisted evicts unlisted scene

end Surroundings

end DeviceRules
