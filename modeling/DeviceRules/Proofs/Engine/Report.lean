import DeviceRules.Proofs.Engine.Inactive
import Mathlib.Data.List.Basic

/-! The report of a tick adds up. Each active rule has one verdict: it is not due, or its condition is evaluated and
holds, does not hold, is misconfigured, or cannot be answered. The counters of the report are the numbers of entries
with each of these, however often an identifier occurs in the list. -/
namespace DeviceRules

theorem countP_split {α : Type} (p q : α → Bool) (items : List α) :
    items.countP p = items.countP (fun item => p item && q item) + items.countP fun item => p item && !q item := by
  rw [items.countP_eq_countP_filter_add p q, List.countP_filter, List.countP_filter]

namespace Surroundings

variable {σ : Type} (s : Surroundings σ) (settings : EngineSettings)

/-- Whether an entry is judged and its condition is false or misconfigured. -/
def isUnmet (entry : Entry σ) : Bool :=
  s.judges settings entry &&
    match (s.judgement entry.rule entry.scene).value with
    | .ok holds => !holds
    | .error fault => fault.isConfiguration

/-- Whether an entry is judged and its condition could not be evaluated, though it is configured well. -/
def isBroken (entry : Entry σ) : Bool :=
  s.judges settings entry &&
    match (s.judgement entry.rule entry.scene).value with
    | .ok _ => false
    | .error fault => !fault.isConfiguration

def isThwarted (entry : Entry σ) : Bool := s.fires settings entry && !(s.dispatch entry).value.isOk

variable {s settings}

/-- A property of verdicts that a rule which is not due lacks is decided by what the condition comes to, and if the
rule fires by what its action comes to. -/
theorem verdict_of_judged (entry : Entry σ) (p : Verdict → Bool) (early : p .rateLimited = false) :
    (entry.rule.active && p (s.consider settings entry.rule entry.scene).value) =
      (s.judges settings entry &&
        match (s.judgement entry.rule entry.scene).value with
        | .ok true => p (.fired (s.dispatch entry).value)
        | .ok false => p .notMet
        | .error fault => p (if fault.isConfiguration then .notMet else .failed)) := by
  rw [judges, Bool.and_assoc]
  refine congrArg (entry.rule.active && ·) ?_
  cases due : s.due settings entry.rule entry.scene with
  | false => rw [consider_of_not_due due, Bool.false_and, early]
  | true =>
      rw [consider_of_due due, Bool.true_and]
      cases (s.judgement entry.rule entry.scene).value with
      | error fault => rfl
      | ok holds => cases holds <;> rfl

theorem evaluated_verdict (entry : Entry σ) :
    (entry.rule.active && !(s.consider settings entry.rule entry.scene).value.isRateLimited) =
      s.judges settings entry := by
  rw [verdict_of_judged entry (!·.isRateLimited) rfl]
  cases (s.judgement entry.rule entry.scene).value with
  | error fault => cases configuration : fault.isConfiguration <;> simp [configuration, Verdict.isRateLimited]
  | ok holds => cases holds <;> simp [Verdict.isRateLimited]

theorem failed_verdict (entry : Entry σ) :
    (entry.rule.active && (s.consider settings entry.rule entry.scene).value.isFailed) = s.isBroken settings entry := by
  rw [verdict_of_judged entry (·.isFailed) rfl, isBroken]
  cases (s.judgement entry.rule entry.scene).value with
  | error fault => cases configuration : fault.isConfiguration <;> simp [configuration, Verdict.isFailed]
  | ok holds => cases holds <;> rfl

theorem thwarted_verdict (entry : Entry σ) :
    (entry.rule.active && (s.consider settings entry.rule entry.scene).value.isActionFailure) =
      s.isThwarted settings entry := by
  rw [verdict_of_judged entry (·.isActionFailure) rfl, isThwarted, fires, Bool.and_assoc]
  cases (s.judgement entry.rule entry.scene).value with
  | error fault =>
      cases configuration : fault.isConfiguration <;>
        simp [configuration, Verdict.isActionFailure, Except.toOption]
  | ok holds =>
      cases holds with
      | false => rfl
      | true => cases (s.dispatch entry).value <;> rfl

variable (s settings)

theorem active_entries (rules : List Rule) (scene : Scene σ) :
    ((s.entries settings rules scene).filter (·.rule.active)).map (·.rule) = rules.filter (·.active) := by
  have listed := congrArg (List.filter (·.active)) (s.entries_rules settings rules scene)
  rwa [List.filter_map] at listed

theorem length_active (rules : List Rule) (scene : Scene σ) :
    (rules.filter (·.active)).length = (s.entries settings rules scene).countP (·.rule.active) := by
  rw [← s.active_entries settings rules scene, List.length_map, List.countP_eq_length_filter]

/-- The rules that fire are among the active ones, in their order. -/
theorem fired_sublist (rules : List Rule) (scene : Scene σ) :
    (((s.entries settings rules scene).filter (s.fires settings)).map (·.rule.id)).Sublist
      ((rules.filter (·.active)).map (·.id)) := by
  rw [← s.active_entries settings rules scene, List.map_map]
  exact (List.monotone_filter_right _ fun entry fires => (fires_iff.mp fires).1).map _

/-- The active entries are those that are not due and those that are judged. -/
theorem countP_active (entries : List (Entry σ)) :
    entries.countP (·.rule.active) =
      entries.countP (fun entry =>
        entry.rule.active && (s.consider settings entry.rule entry.scene).value.isRateLimited) +
      entries.countP (s.judges settings) := by
  rw [countP_split (fun entry : Entry σ => entry.rule.active) fun entry =>
    (s.consider settings entry.rule entry.scene).value.isRateLimited]
  simp only [evaluated_verdict]

/-- An entry that is judged fires, or its condition is unmet, or it breaks, and only one of these. -/
theorem countP_judges (entries : List (Entry σ)) :
    entries.countP (s.judges settings) =
      entries.countP (s.fires settings) + entries.countP (s.isBroken settings) +
        entries.countP (s.isUnmet settings) := by
  have silent : entries.countP (fun entry =>
      s.judges settings entry && !((s.judgement entry.rule entry.scene).value.toOption == some true)) =
        entries.countP (s.isBroken settings) + entries.countP (s.isUnmet settings) := by
    rw [countP_split _ (s.isBroken settings)]
    refine congrArg₂ (· + ·) (List.countP_congr fun entry _ => ?_) (List.countP_congr fun entry _ => ?_)
    all_goals
      simp only [isBroken, isUnmet]
      cases s.judges settings entry with
      | false => simp
      | true =>
          cases (s.judgement entry.rule entry.scene).value with
          | error fault => simp [Except.toOption]
          | ok holds => cases holds <;> simp [Except.toOption]
  rw [countP_split (s.judges settings) fun entry =>
    (s.judgement entry.rule entry.scene).value.toOption == some true, silent, Nat.add_assoc]
  rfl

/-- The counters of the report of a tick add up. Each active rule of the loaded list is either not due or evaluated, each
evaluated one fires, fails or is not met, and the actions that fail are among those of the rules that fire, which are
listed in the order of the list. -/
theorem tick_report_adds_up (s : Surroundings σ) (settings : EngineSettings) (scene : Scene σ) {rules : List Rule}
    (loaded : (s.rules scene.world).value = .ok rules) :
    let active := rules.filter (·.active)
    let entries := s.entries settings rules (opened settings active scene)
    ∃ report, (s.tick settings scene).value = .ok report ∧
      report.rules = rules.length ∧
      report.rateLimited + report.evaluated = active.length ∧
      report.evaluated = entries.countP (s.judges settings) ∧
      report.evaluated = report.fired.length + report.failed + entries.countP (s.isUnmet settings) ∧
      report.failed = entries.countP (s.isBroken settings) ∧
      report.fired = (entries.filter (s.fires settings)).map (·.rule.id) ∧
      report.actionFailures = entries.countP (s.isThwarted settings) ∧
      report.actionFailures ≤ report.fired.length ∧
      report.fired.Sublist (active.map (·.id)) := by
  intro active entries
  let opening := opened settings active scene
  let pass := (s.considerAll settings active opening).value
  let report := TickReport.ofVerdicts rules.length (scene.fired.size - opening.fired.size) pass
  have counted (p : Verdict → Bool) : pass.countP (p ·.2) = entries.countP fun entry =>
      entry.rule.active && p (s.consider settings entry.rule entry.scene).value :=
    s.considerAll_countP settings rules opening p
  have limited : report.rateLimited = _ := counted (·.isRateLimited)
  have evaluated : report.evaluated = entries.countP (s.judges settings) :=
    (counted (!·.isRateLimited)).trans (congrArg (List.countP · entries) (funext evaluated_verdict))
  have failed : report.failed = entries.countP (s.isBroken settings) :=
    (counted (·.isFailed)).trans (congrArg (List.countP · entries) (funext failed_verdict))
  have thwarted : report.actionFailures = entries.countP (s.isThwarted settings) :=
    (counted (·.isActionFailure)).trans (congrArg (List.countP · entries) (funext thwarted_verdict))
  have fired : report.fired = (entries.filter (s.fires settings)).map (·.rule.id) :=
    s.considerAll_fired settings rules opening
  have firings : report.fired.length = entries.countP (s.fires settings) := by
    rw [fired, List.length_map, List.countP_eq_length_filter]
  refine ⟨report, by rw [tick_of_loaded loaded], rfl, ?_, evaluated, ?_, failed, fired, thwarted, ?_, ?_⟩
  · rw [limited, evaluated, ← countP_active, ← s.length_active]
  · rw [evaluated, firings, failed, countP_judges]
  · rw [thwarted, firings]
    exact List.countP_mono_left fun entry _ thwarted => (Bool.and_eq_true_iff.mp thwarted).1
  · rw [fired]
    exact s.fired_sublist settings rules opening

end Surroundings

def quietNote : Action := .notification "never" logChannel

/-- The rules of the house with more that do not fire: one whose condition is false once the lamp is lit, one without a
condition, and one that asks about a device that the telemetry store does not answer for. -/
def crowdedRules : List Rule :=
  houseRules ++
    [houseRule 4 (.status "off") quietNote true, houseRule 5 (.unsupported none .noCondition) quietNote true,
      houseRule 6 (.composite .or [⟨some ⟨"cellar"⟩, .status "dry"⟩]) quietNote true]

def crowdedHouse : World := { house.setFailing ⟨"cellar"⟩ true with rules := .everything crowdedRules }

/-- Of seven rules six are active. One is not due when its turn comes, since another under its identifier has fired. -/
theorem tick_report_adds_up_of_crowded_house :
    (World.surroundings.rules crowdedHouse).value = .ok crowdedRules ∧
    ∃ report, (World.surroundings.tick {} ⟨.empty, crowdedHouse⟩).value = .ok report ∧
      report.rateLimited + report.evaluated = 6 ∧ report.evaluated = 5 ∧
      report.evaluated = report.fired.length + report.failed + 2 ∧ report.failed = 1 ∧
      report.fired = [(houseRule 1 (.status "") quietNote true).id, (houseRule 2 (.status "") quietNote true).id] ∧
      report.actionFailures = 1 := by
  have loaded : (World.surroundings.rules crowdedHouse).value = .ok crowdedRules := rfl
  obtain ⟨report, reported, -, total, evaluated, split, failed, fired, thwarted, -, -⟩ :=
    World.surroundings.tick_report_adds_up {} ⟨.empty, crowdedHouse⟩ loaded
  exact ⟨loaded, report, reported, total, evaluated, split, failed, fired, thwarted⟩

end DeviceRules
