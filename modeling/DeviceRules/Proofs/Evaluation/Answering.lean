import DeviceRules.Simulation.World

/-! What a store of samples and statuses answers, one query at a time. The store in memory answers every query. -/
namespace DeviceRules

def Query.device : Query → DeviceId
  | samples device _ _ _ => device
  | status device => device

def Traced.queries {α : Type} (traced : Traced α) : List Query := traced.events.filterMap Event.query?

namespace Telemetry

def Fails (telemetry : Telemetry) : Query → Prop
  | .samples device dataType since limit => ∃ outage, telemetry.samples device dataType since limit = .error outage
  | .status device => ∃ outage, telemetry.status device = .error outage

def Reliable (telemetry : Telemetry) : Prop := ∀ query, ¬ telemetry.Fails query

/-- The queries about just these devices fail. -/
def FailsExactlyOn (telemetry : Telemetry) (failing : DeviceId → Prop) : Prop :=
  ∀ query, telemetry.Fails query ↔ failing query.device

def SameAnswer (telemetry other : Telemetry) : Query → Prop
  | .samples device dataType since limit =>
      other.samples device dataType since limit = telemetry.samples device dataType since limit
  | .status device => other.status device = telemetry.status device

/-- The stores answer alike about all devices but these, about which the other one answers anything. -/
def AgreesOutside (telemetry other : Telemetry) (failing : DeviceId → Prop) : Prop :=
  ∀ query, ¬ failing query.device → telemetry.SameAnswer other query

end Telemetry

theorem TelemetryLog.telemetry_reliable (log : TelemetryLog) : log.telemetry.Reliable := by
  rintro (⟨device, dataType, since, limit⟩ | ⟨device⟩) ⟨outage, failed⟩ <;> cases failed

theorem World.answers_fails_iff (world : World) (query : Query) :
    world.answers.Fails query ↔ query.device ∈ world.failing ∨ world.telemetry.telemetry.Fails query := by
  by_cases failing : query.device ∈ world.failing
  · refine iff_of_true ?_ (.inl failing)
    cases query <;> exact ⟨_, if_pos (List.contains_iff_mem.mpr failing)⟩
  · have silent : world.failing.contains query.device = false := by simpa using failing
    cases query <;> simp_all [Telemetry.Fails, World.answers, Query.device]

end DeviceRules
