import DeviceRules.Proofs.Engine.Report
import Mathlib.Data.List.Dedup
import Mathlib.Data.List.Induction

/-! The books of the fire state. A tick that loads its rules forgets the identifiers that are not active, if it is to
do so, and adds those that fire and were not tracked before; each once, however often they occur. A tick that loads
nothing changes nothing. -/
namespace DeviceRules

theorem length_eq_filter_add {α : Type} (p : α → Prop) [DecidablePred p] (items : List α) :
    items.length = (items.filter (p ·)).length + (items.filter (¬p ·)).length := by
  have parts := items.length_eq_length_filter_add (p ·)
  simpa only [decide_not] using parts

namespace FireState

def tracked (state : FireState) : List RuleId := state.entries.map Prod.fst

variable {state : FireState} {id : RuleId}

theorem length_tracked (state : FireState) : state.tracked.length = state.size := List.length_map _

theorem mem_tracked : id ∈ state.tracked ↔ (state.lastFired id).isSome = true := by
  constructor
  · intro member
    obtain ⟨⟨_, time⟩, inside, rfl⟩ := List.mem_map.mp member
    exact Option.isSome_iff_exists.mpr ⟨time, mem_entries_iff.mp inside⟩
  · intro known
    obtain ⟨time, known⟩ := Option.isSome_iff_exists.mp known
    exact List.mem_map_of_mem (mem_entries_iff.mpr known)

theorem tracked_retain (active : List RuleId) :
    (state.retain active).tracked = state.tracked.filter active.contains := by
  rw [tracked, tracked, List.filter_map]
  rfl

/-- What is tracked is what was tracked and stays, with what was added and is new. -/
theorem tracked_perm {before after : FireState} {added : List RuleId}
    (known : ∀ id ∈ after.tracked, id ∈ before.tracked ∨ id ∈ added) (recorded : ∀ id ∈ added, id ∈ after.tracked) :
    after.tracked.Perm
      (before.tracked.filter (· ∈ after.tracked) ++ added.dedup.filter (· ∉ before.tracked)) := by
  have apart : (before.tracked.filter (· ∈ after.tracked) ++ added.dedup.filter (· ∉ before.tracked)).Nodup := by
    refine List.nodup_append.mpr ⟨before.distinct.filter _, (List.nodup_dedup added).filter _, ?_⟩
    rintro id old _ new rfl
    exact of_decide_eq_true (List.mem_filter.mp new).2 (List.mem_filter.mp old).1
  refine (List.perm_ext_iff_of_nodup after.distinct apart).mpr fun id => ?_
  change id ∈ after.tracked ↔ _
  have one := known id
  have other := recorded id
  rw [List.mem_append, List.mem_filter, List.mem_filter, List.mem_dedup, decide_eq_true_eq, decide_eq_true_eq]
  tauto

/-- The sizes before and after balance, with what is forgotten on the one side and what is new on the other. -/
theorem size_balance {before after : FireState} {added : List RuleId}
    (known : ∀ id ∈ after.tracked, id ∈ before.tracked ∨ id ∈ added) (recorded : ∀ id ∈ added, id ∈ after.tracked) :
    after.size + (before.tracked.filter (· ∉ after.tracked)).length =
      before.size + (added.dedup.filter (· ∉ before.tracked)).length := by
  have parts := length_eq_filter_add (· ∈ after.tracked) before.tracked
  have sizes := (tracked_perm known recorded).length_eq
  rw [List.length_append] at sizes
  rw [← length_tracked, ← length_tracked]
  omega

end FireState

namespace Surroundings

variable {σ : Type} (s : Surroundings σ) (settings : EngineSettings)

/-- Whether a tick over some active rules remembers what is known under an identifier. -/
def remembers (active : List Rule) (id : RuleId) : Bool :=
  !settings.evictStale || (active.map (·.id)).contains id

theorem tracked_opened (active : List Rule) (scene : Scene σ) :
    (opened settings active scene).fired.tracked = scene.fired.tracked.filter (remembers settings active) := by
  unfold opened remembers
  cases settings.evictStale with
  | false => simp
  | true =>
      simp only [if_true, Bool.not_true, Bool.false_or]
      exact FireState.tracked_retain _

theorem lastFired_opened {active : List Rule} {id : RuleId} (kept : remembers settings active id = true)
    (scene : Scene σ) : (opened settings active scene).fired.lastFired id = scene.fired.lastFired id := by
  unfold remembers at kept
  unfold opened
  cases evicts : settings.evictStale with
  | false => rfl
  | true =>
      rw [evicts, Bool.not_true, Bool.false_or] at kept
      rw [if_pos rfl, FireState.lastFired_retain, if_pos kept]

theorem firings_eq_nil {entries : List (Entry σ)} {id : RuleId} :
    (entries.filter (s.fires settings)).filter (·.rule.id = id) = [] ↔
      id ∉ (entries.filter (s.fires settings)).map (·.rule.id) := by
  simp only [List.filter_eq_nil_iff, decide_eq_true_eq, List.mem_map, not_exists, not_and]

/-- What is known of an identifier under which nothing fires stays. -/
theorem lastFired_of_unfired (rules : List Rule) (scene : Scene σ) {id : RuleId}
    (unfired : id ∉ ((s.entries settings rules scene).filter (s.fires settings)).map (·.rule.id)) :
    (s.afterTurns settings rules scene).fired.lastFired id = scene.fired.lastFired id := by
  rw [afterTurns_lastFired, (s.firings_eq_nil settings).mpr unfired]
  rfl

/-- The turns of a tick track what they found tracked and what they fire. -/
theorem tracked_afterTurns (rules : List Rule) (scene : Scene σ) (id : RuleId) :
    id ∈ (s.afterTurns settings rules scene).fired.tracked ↔
      id ∈ scene.fired.tracked ∨ id ∈ ((s.entries settings rules scene).filter (s.fires settings)).map (·.rule.id) := by
  rw [FireState.mem_tracked, FireState.mem_tracked, afterTurns_lastFired, Option.isSome_or, Option.isSome_map,
    Bool.or_eq_true, List.getLast?_isSome, or_comm]
  refine or_congr Iff.rfl ?_
  rw [ne_eq, (s.firings_eq_nil settings), not_not]

/-- What a tick over some rules does to the fire state, by its report. -/
structure KeepsBooks (rules : List Rule) (before after : FireState) (report : TickReport) : Prop where
  /-- With eviction, only identifiers of active rules are tracked. -/
  active : settings.evictStale = true → ∀ id ∈ after.tracked, ∃ rule ∈ rules, rule.active = true ∧ rule.id = id
  evicted : report.evicted = (before.tracked.filter (· ∉ after.tracked)).length
  /-- What is tracked afterwards is what was tracked, less the evicted and with each new identifier once. -/
  size : after.size + report.evicted = before.size + (report.fired.dedup.filter (· ∉ before.tracked)).length
  /-- The entry of an identifier that does not fire stays, unless it is evicted. -/
  stays : ∀ id, id ∉ report.fired →
    (settings.evictStale = false ∨ ∃ rule ∈ rules, rule.active = true ∧ rule.id = id) →
    after.lastFired id = before.lastFired id
  /-- Without eviction nothing is forgotten. -/
  complete : settings.evictStale = false → report.evicted = 0 ∧ ∀ id ∈ before.tracked, id ∈ after.tracked

theorem mem_active_ids {rules : List Rule} {id : RuleId} :
    id ∈ (rules.filter (·.active)).map (·.id) ↔ ∃ rule ∈ rules, rule.active = true ∧ rule.id = id := by
  simp [and_assoc]

theorem remembers_iff {rules : List Rule} {id : RuleId} :
    remembers settings (rules.filter (·.active)) id = true ↔
      settings.evictStale = false ∨ ∃ rule ∈ rules, rule.active = true ∧ rule.id = id := by
  rw [remembers, Bool.or_eq_true, Bool.not_eq_true', List.contains_iff_mem, mem_active_ids]

theorem tick_keepsBooks (scene : Scene σ) {rules : List Rule} (loaded : (s.rules scene.world).value = .ok rules) :
    ∃ report, (s.tick settings scene).value = .ok report ∧
      KeepsBooks settings rules scene.fired (s.tick settings scene).world.fired report := by
  let active := rules.filter (·.active)
  let opening := opened settings active scene
  let run := s.considerAll settings active opening
  let report := TickReport.ofVerdicts rules.length (scene.fired.size - opening.fired.size) run.value
  have world : run.world = s.afterTurns settings rules opening :=
    congrArg Outcome.world (s.considerAll_entries settings rules opening)
  have fired : report.fired = ((s.entries settings rules opening).filter (s.fires settings)).map (·.rule.id) :=
    s.considerAll_fired settings rules opening
  have fresh : ∀ id ∈ report.fired, remembers settings active id = true := by
    intro id fires
    rw [fired] at fires
    exact (remembers_iff settings).mpr (.inr (mem_active_ids.mp ((s.fired_sublist settings rules opening).subset fires)))
  have tracked (id : RuleId) : id ∈ run.world.fired.tracked ↔
      (id ∈ scene.fired.tracked ∧ remembers settings active id = true) ∨ id ∈ report.fired := by
    rw [world, fired, tracked_afterTurns, tracked_opened, List.mem_filter]
  have stayed : opening.fired.tracked = scene.fired.tracked.filter (· ∈ run.world.fired.tracked) := by
    rw [tracked_opened]
    refine List.filter_congr fun id known => ?_
    rw [Bool.eq_iff_iff, decide_eq_true_eq, tracked, and_iff_right known]
    exact (or_iff_left_of_imp (fresh id)).symm
  have evicted : report.evicted = (scene.fired.tracked.filter (· ∉ run.world.fired.tracked)).length := by
    have parts := length_eq_filter_add (· ∈ run.world.fired.tracked) scene.fired.tracked
    rw [← stayed, FireState.length_tracked, FireState.length_tracked] at parts
    exact Nat.sub_eq_of_eq_add' parts
  have complete (keeps : settings.evictStale = false) : ∀ id ∈ scene.fired.tracked, id ∈ run.world.fired.tracked :=
    fun id known => (tracked id).mpr (.inl ⟨known, (remembers_iff settings).mpr (.inl keeps)⟩)
  refine ⟨report, by rw [tick_of_loaded loaded], ?_⟩
  rw [tick_of_loaded loaded]
  refine ⟨fun evicts id known => ?_, evicted, ?_, fun id unfired kept => ?_, fun keeps => ⟨?_, complete keeps⟩⟩
  · have kept : remembers settings active id = true := ((tracked id).mp known).elim And.right (fresh id)
    exact ((remembers_iff settings).mp kept).resolve_left (by simp [evicts])
  · rw [evicted]
    exact FireState.size_balance (fun id known => ((tracked id).mp known).imp_left And.left)
      fun id fires => (tracked id).mpr (.inr fires)
  · change run.world.fired.lastFired id = scene.fired.lastFired id
    rw [world, s.lastFired_of_unfired settings rules opening (fired ▸ unfired)]
    exact lastFired_opened settings ((remembers_iff settings).mpr kept) scene
  · rw [evicted, List.length_eq_zero_iff, List.filter_eq_nil_iff]
    intro id known
    simpa using complete keeps id known

theorem firedAfter_append (worlds : List σ) (world : σ) : ∀ fired : FireState,
    s.firedAfter settings fired (worlds ++ [world]) =
      (s.tick settings ⟨s.firedAfter settings fired worlds, world⟩).world.fired := by
  induction worlds with
  | nil => exact fun _ => rfl
  | cons first rest ih => exact fun fired => ih _

def loads (worlds : List σ) : List (List Rule) := worlds.filterMap fun world => (s.rules world).value.toOption

theorem tracked_firedAfter (keeps : settings.evictStale = false) (fired : FireState) (worlds : List σ) :
    ∀ id ∈ fired.tracked, id ∈ (s.firedAfter settings fired worlds).tracked := by
  induction worlds using List.reverseRecOn with
  | nil => exact fun _ known => known
  | append_singleton worlds world ih =>
      intro id known
      rw [firedAfter_append]
      cases loaded : (s.rules world).value with
      | error outage =>
          rw [tick_of_outage loaded]
          exact ih id known
      | ok rules =>
          obtain ⟨_, _, books⟩ := s.tick_keepsBooks settings ⟨s.firedAfter settings fired worlds, world⟩ loaded
          exact (books.complete keeps).2 id (ih id known)

/-- With eviction, all that is tracked after a run was active in the rules that were loaded last. -/
theorem active_of_tracked (evicts : settings.evictStale = true) (fired : FireState) {worlds : List σ}
    {rules : List Rule} (last : (s.loads worlds).getLast? = some rules) :
    ∀ id ∈ (s.firedAfter settings fired worlds).tracked, ∃ rule ∈ rules, rule.active = true ∧ rule.id = id := by
  induction worlds using List.reverseRecOn with
  | nil => cases last
  | append_singleton worlds world ih =>
      rw [firedAfter_append]
      rw [loads, List.filterMap_append, ← loads] at last
      cases loaded : (s.rules world).value with
      | error outage =>
          rw [tick_of_outage loaded]
          refine ih ?_
          simpa [loaded, Except.toOption] using last
      | ok others =>
          obtain ⟨_, _, books⟩ := s.tick_keepsBooks settings ⟨s.firedAfter settings fired worlds, world⟩ loaded
          have same : others = rules := by simpa [loaded, Except.toOption] using last
          exact same ▸ books.active evicts

/-- A tick that loads its rules keeps the books, whatever it finds tracked; one that does not gives the outage of the
store, attempts nothing and leaves the fire state and the world as they were. So in a run nothing is forgotten without
eviction, and with it nothing is tracked but what the last load has shown active. -/
theorem fire_state_keeps_books (s : Surroundings σ) (settings : EngineSettings) :
    (∀ (scene : Scene σ) (rules : List Rule), (s.rules scene.world).value = .ok rules →
      ∃ report, (s.tick settings scene).value = .ok report ∧
        KeepsBooks settings rules scene.fired (s.tick settings scene).world.fired report) ∧
    (∀ (scene : Scene σ) (outage : Outage), (s.rules scene.world).value = .error outage →
      (s.tick settings scene).value = .error outage ∧ (s.tick settings scene).world = scene ∧
        (s.tick settings scene).effects = []) ∧
    (∀ (fired : FireState) (worlds : List σ), settings.evictStale = false →
      ∀ id ∈ fired.tracked, id ∈ (s.firedAfter settings fired worlds).tracked) ∧
    ∀ (fired : FireState) (worlds : List σ) (rules : List Rule), settings.evictStale = true →
      (s.loads worlds).getLast? = some rules →
      ∀ id ∈ (s.firedAfter settings fired worlds).tracked, ∃ rule ∈ rules, rule.active = true ∧ rule.id = id := by
  refine ⟨fun scene rules loaded => s.tick_keepsBooks settings scene loaded, fun scene outage failed => ?_,
    fun fired worlds keeps => s.tracked_firedAfter settings keeps fired worlds,
    fun fired worlds rules evicts last => s.active_of_tracked settings evicts fired last⟩
  rw [tick_of_outage failed]
  exact ⟨rfl, rfl, effects_of_reports (s.rules_reports scene.world)⟩

end Surroundings

/-- One rule is listed twice, one has fired before, and one that has fired before is not active any more. -/
def tendedRules : List Rule :=
  [houseRule 1 (.composite .and []) quietNote true, houseRule 1 (.composite .and []) quietNote true,
    houseRule 2 (.status "on") quietNote true, houseRule 3 (.composite .and []) quietNote false]

def tendedScene : Scene World where
  fired := (FireState.empty.record tendedRules[2].id .epoch).record tendedRules[3].id .epoch
  world := { house with rules := .everything tendedRules }

def noRateLimit : EngineSettings := { defaultMinInterval := 0 }

/-- The first rule fires twice and is added once, the second keeps its entry, and the third loses its own. Then the
rules cannot be loaded. -/
theorem fire_state_keeps_books_of_tended_house :
    let outcome := World.surroundings.tick noRateLimit tendedScene
    let down := { tendedScene.world with rulesDown := true }
    (∃ report, outcome.value = .ok report ∧ report.fired = [tendedRules[0].id, tendedRules[0].id] ∧
      report.evicted = 1 ∧ outcome.world.fired.size + 1 = 2 + 1 ∧
      outcome.world.fired.lastFired tendedRules[2].id = some .epoch) ∧
    (World.surroundings.tick noRateLimit ⟨tendedScene.fired, down⟩).world = ⟨tendedScene.fired, down⟩ ∧
    (∀ id ∈ tendedScene.fired.tracked,
      id ∈ (World.surroundings.firedAfter { noRateLimit with evictStale := false } tendedScene.fired
        [tendedScene.world, down]).tracked) ∧
    ∀ id ∈ (World.surroundings.firedAfter noRateLimit tendedScene.fired [tendedScene.world, down]).tracked,
      ∃ rule ∈ tendedRules, rule.active = true ∧ rule.id = id := by
  intro outcome down
  have loaded : (World.surroundings.rules tendedScene.world).value = .ok tendedRules := rfl
  obtain ⟨ticks, failures, -, evicting⟩ := World.surroundings.fire_state_keeps_books noRateLimit
  obtain ⟨-, -, keeping, -⟩ := World.surroundings.fire_state_keeps_books { noRateLimit with evictStale := false }
  obtain ⟨report, reported, books⟩ := ticks tendedScene tendedRules loaded
  have fired : report.fired = [tendedRules[0].id, tendedRules[0].id] :=
    congrArg TickReport.fired (Except.ok.inj (reported.symm.trans (rfl : outcome.value = .ok _)))
  have evicted : report.evicted = 1 := books.evicted.trans (by decide)
  refine ⟨⟨report, reported, fired, evicted, ?_, ?_⟩, ?_, ?_, ?_⟩
  · have balance := books.size
    rw [fired, evicted] at balance
    exact balance
  · refine (books.stays tendedRules[2].id (by rw [fired]; decide) (.inr ?_)).trans rfl
    exact ⟨tendedRules[2], by simp [tendedRules], rfl, rfl⟩
  · exact (failures ⟨tendedScene.fired, down⟩ _ rfl).2.1
  · exact keeping tendedScene.fired _ rfl
  · exact evicting tendedScene.fired _ tendedRules rfl rfl

end DeviceRules
