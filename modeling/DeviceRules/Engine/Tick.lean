import DeviceRules.Execution
import DeviceRules.FireState

/-! One pass of the engine over the active rules. Rules are taken one after the other, and what one of them does
never keeps the others from being taken. -/
namespace DeviceRules

structure EngineSettings where
  /-- The pause between the end of a tick and the start of the next. -/
  tickInterval : Duration := .ofWholeSeconds 5
  /-- The rate limit of rules whose trigger sets none, in seconds. -/
  defaultMinInterval : UInt64 := Trigger.defaultMinInterval
  /-- Whether the firings of rules that are no longer active are forgotten. -/
  evictStale : Bool := true

inductive Verdict
  | rateLimited
  /-- The condition is false or misconfigured. -/
  | notMet
  /-- The telemetry store failed. -/
  | failed
  | fired (result : Except Fault Unit)

namespace Verdict

def isRateLimited : Verdict → Bool
  | rateLimited => true
  | _ => false

def isFailed : Verdict → Bool
  | failed => true
  | _ => false

def isFired : Verdict → Bool
  | fired _ => true
  | _ => false

def isActionFailure : Verdict → Bool
  | fired (.error _) => true
  | _ => false

end Verdict

structure TickReport where
  rules : Nat
  rateLimited : Nat
  evaluated : Nat
  /-- The rules that fired, in their order. -/
  fired : List RuleId
  actionFailures : Nat
  failed : Nat
  evicted : Nat
  deriving DecidableEq

/-- The report of a tick over `rules` rules, the active ones with these verdicts. -/
def TickReport.ofVerdicts (rules evicted : Nat) (verdicts : List (RuleId × Verdict)) : TickReport where
  rules := rules
  rateLimited := verdicts.countP (·.2.isRateLimited)
  evaluated := verdicts.countP (!·.2.isRateLimited)
  fired := (verdicts.filter (·.2.isFired)).map (·.1)
  actionFailures := verdicts.countP (·.2.isActionFailure)
  failed := verdicts.countP (·.2.isFailed)
  evicted := evicted

structure Scene (σ : Type) where
  fired : FireState
  world : σ

namespace Surroundings

variable {σ : Type}

def failureEvent (event : Fault → Event) : Except Fault Unit → List Event
  | .ok () => []
  | .error fault => [event fault]

/-- Lets a rule fire. The firing is noted when the action has ended, whatever came of it, so that a pause inside
the action puts off the next firing. -/
def fire (s : Surroundings σ) (rule : Rule) (scene : Scene σ) : Outcome (Scene σ) Verdict :=
  let run := s.execute rule.actionDevice.target? rule.action scene.world
  let events := .triggered rule.action :: run.events ++ failureEvent .actionFailed run.value
  let world := s.elapse run.world
  ⟨.fired run.value, events, ⟨scene.fired.record rule.id (s.now world), world⟩⟩

/-- Takes one rule: it fires if it is due and its condition holds. -/
def consider (s : Surroundings σ) (settings : EngineSettings) (rule : Rule) (scene : Scene σ) :
    Outcome (Scene σ) Verdict :=
  let scene := { scene with world := s.elapse scene.world }
  let now := s.now scene.world
  if scene.fired.isDue rule.id (rule.trigger.interval settings.defaultMinInterval) now then
    let moment := ⟨now, s.localTime scene.world, scene.fired.lastFired rule.id⟩
    let judged := rule.trigger.condition.evaluate (s.telemetry scene.world) moment rule.triggerDevice.target?
    match judged.value with
    | .ok true =>
        let run := s.fire rule scene
        ⟨run.value, judged.events ++ run.events, run.world⟩
    | .ok false => ⟨.notMet, judged.events, scene⟩
    | .error fault =>
        let verdict := if fault.isConfiguration then .notMet else .failed
        ⟨verdict, judged.events ++ [.conditionFailed fault], scene⟩
  else ⟨.rateLimited, [], scene⟩

def considerAll (s : Surroundings σ) (settings : EngineSettings) :
    List Rule → Scene σ → Outcome (Scene σ) (List (RuleId × Verdict))
  | [], scene => ⟨[], [], scene⟩
  | rule :: rest, scene =>
      let first := s.consider settings rule scene
      let others := s.considerAll settings rest first.world
      ⟨(rule.id, first.value) :: others.value, first.events ++ others.events, others.world⟩

/-- One pass over the active rules. When the rules cannot be loaded, nothing is done. -/
def tick (s : Surroundings σ) (settings : EngineSettings) (scene : Scene σ) :
    Outcome (Scene σ) (Except Outage TickReport) :=
  let loaded := s.rules scene.world
  match loaded.value with
  | .error outage => ⟨.error outage, loaded.events, scene⟩
  | .ok rules =>
      let active := rules.filter (·.active)
      let kept := if settings.evictStale then scene.fired.retain (active.map (·.id)) else scene.fired
      let run := s.considerAll settings active ⟨kept, scene.world⟩
      let report := TickReport.ofVerdicts rules.length (scene.fired.size - kept.size) run.value
      ⟨.ok report, loaded.events ++ run.events, run.world⟩

end Surroundings

end DeviceRules
