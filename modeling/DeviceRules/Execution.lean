import DeviceRules.Evaluation
import DeviceRules.Rule

/-! Carrying out actions. A sequence is best effort: every step runs, whatever came of those before it, and the
sequence fails when any step has failed. -/
namespace DeviceRules

/-- What came of a computation in a world: its value, the events on the way and the world after it. -/
structure Outcome (σ α : Type) where
  value : α
  events : List Event
  world : σ

/-- What an engine works in: a clock, stores to read from and channels to act through. `σ` is the state of all of
them. -/
structure Surroundings (σ : Type) where
  /-- What happens by itself before the clock is read the next time. -/
  elapse : σ → σ
  now : σ → Instant
  localTime : σ → LocalTime
  /-- The rules of the store, which may warn about some that it cannot read. -/
  rules : σ → Traced (Except Outage (List Rule))
  telemetry : σ → Telemetry
  /-- Sends a command to a device; `false` means that it was not accepted. -/
  publish : DeviceId → Command → σ → Outcome σ (Except Outage Bool)
  /-- Sends a request; the value is the HTTP status of the answer. -/
  send : WebhookRequest → σ → Outcome σ (Except Outage Nat)
  wait : Duration → σ → σ
  /-- Stores and channels report what they do themselves; questions and attempts are the engine's own. -/
  rules_reports : ∀ world, ∀ event ∈ (rules world).events, event.isOwn = false
  publish_reports : ∀ device command world, ∀ event ∈ (publish device command world).events, event.isOwn = false
  send_reports : ∀ request world, ∀ event ∈ (send request world).events, event.isOwn = false

namespace Surroundings

variable {σ : Type}

/-- Brings about an effect. It succeeds when a command was accepted or the answer to a request says so. -/
def perform (s : Surroundings σ) (effect : Effect) (world : σ) : Outcome σ (Except Fault Unit) :=
  match effect with
  | .publish device command =>
      let sent := s.publish device command world
      let events := .attempted effect :: sent.events
      match sent.value with
      | .ok true => ⟨.ok (), events ++ [.published device command], sent.world⟩
      | .ok false => ⟨.error (.delivery (.notPublished device)), events, sent.world⟩
      | .error outage => ⟨.error (.outage outage), events, sent.world⟩
  | .request request =>
      let sent := s.send request world
      let events := .attempted effect :: sent.events
      match sent.value with
      | .ok status =>
          if isSuccess status then ⟨.ok (), events ++ [.answered request status], sent.world⟩
          else ⟨.error (.delivery (.webhookStatus request.url status)), events, sent.world⟩
      | .error outage => ⟨.error (.outage outage), events, sent.world⟩
  | .notify _ => ⟨.ok (), [.attempted effect], world⟩
  | .wait duration => ⟨.ok (), [.attempted effect], s.wait duration world⟩

def decline (error : ConfigurationError) (world : σ) : Outcome σ (Except Fault Unit) :=
  ⟨.error (.configuration error), [], world⟩

mutual

def execute (s : Surroundings σ) (device : Option DeviceId) : Action → σ → Outcome σ (Except Fault Unit)
  | .command body, world =>
      match device with
      | some d => s.perform (.publish d body) world
      | none => decline (.missingDevice "device_command") world
  | .notification message channel, world =>
      if channel = logChannel then s.perform (.notify message) world
      else decline (.unknownChannel channel) world
  | .webhook hook, world => s.perform (.request hook.request) world
  | .delay seconds, world => s.perform (.wait (.ofSeconds seconds)) world
  | .sequence steps, world =>
      let run := executeSteps s 0 steps world
      if run.value = 0 then ⟨.ok (), run.events, run.world⟩
      else ⟨.error (.delivery (.sequenceIncomplete run.value steps.length)), run.events, run.world⟩
  | .unsupported kind defect, world => decline (.unsupportedAction kind defect) world

/-- Carries out the steps from number `index` on, each for its own device, and counts those that fail. -/
def executeSteps (s : Surroundings σ) (index : Nat) : List (Addressed Action) → σ → Outcome σ Nat
  | [], world => ⟨0, [], world⟩
  | ⟨device, node⟩ :: rest, world =>
      let step := execute s (device.bind DeviceId.target?) node world
      let others := executeSteps s (index + 1) rest step.world
      match step.value with
      | .ok () => ⟨others.value, step.events ++ others.events, others.world⟩
      | .error fault =>
          ⟨others.value + 1, step.events ++ .stepFailed index node.kind fault :: others.events, others.world⟩

end

end Surroundings

end DeviceRules
