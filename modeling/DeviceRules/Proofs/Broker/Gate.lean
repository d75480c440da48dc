import DeviceRules.Broker.Session
import Mathlib.Data.List.Basic
import Mathlib.Data.List.Induction

/-! What a session lets through. The events of the broker and the calls that publish a command come in any order, and
share nothing but the flag of the session. What becomes of a call is decided by the events before it alone: by the
latest of those that are about the connection. -/
namespace DeviceRules

/-- A step of one of the two parties: the broker has reported an event, or a command is to be published. -/
inductive SessionStep
  | reported (event : BrokerEvent)
  | called (device : DeviceId) (command : Command)

namespace SessionStep

def connection? : SessionStep → Option BrokerEvent
  | reported .other | called _ _ => none
  | reported event => some event

def call? : SessionStep → Option (DeviceId × Command)
  | reported _ => none
  | called device command => some (device, command)

def connections (steps : List SessionStep) : List BrokerEvent := steps.filterMap connection?

/-- The latest word about the connection is that the broker has accepted it. -/
def Accepted (steps : List SessionStep) : Prop := (connections steps).getLast? = some (.acknowledged 0)

end SessionStep

/-- A call that publishes a command, and what has become of it. -/
structure BrokerCall where
  device : DeviceId
  command : Command
  publication : BrokerSession.Publication

def BrokerCall.isPublished (call : BrokerCall) : Bool :=
  match call.publication.value with
  | .ok published => published
  | .error _ => false

namespace BrokerSession

/-- Only the broker's events change a session. -/
def step (session : BrokerSession) : SessionStep → BrokerSession
  | .reported event => session.after event
  | .called _ _ => session

def afterAll (session : BrokerSession) (steps : List SessionStep) : BrokerSession := steps.foldl step session

section Run

variable (settings : BrokerSettings) (accepts : BrokerMessage → Bool)

/-- The calls among some steps, each with what became of it in the session of its time. -/
def run (session : BrokerSession) : List SessionStep → List BrokerCall
  | [] => []
  | .reported event :: rest => run (session.after event) rest
  | .called device command :: rest =>
      ⟨device, command, session.publish settings accepts device command⟩ :: run session rest

variable {settings accepts} {session : BrokerSession}

theorem run_append (earlier later : List SessionStep) :
    run settings accepts session (earlier ++ later) =
      run settings accepts session earlier ++ run settings accepts (session.afterAll earlier) later := by
  induction earlier generalizing session with
  | nil => rfl
  | cons first rest ih =>
      cases first with
      | reported event => exact ih
      | called device command => exact congrArg _ ih

theorem run_calls (steps : List SessionStep) :
    (run settings accepts session steps).map (fun call => (call.device, call.command)) =
      steps.filterMap SessionStep.call? := by
  induction steps generalizing session with
  | nil => rfl
  | cons first rest ih =>
      cases first with
      | reported event => exact ih
      | called device command => exact congrArg _ ih

/-- Every call of a run was made after some of the steps. -/
theorem mem_run {steps : List SessionStep} {call : BrokerCall} (member : call ∈ run settings accepts session steps) :
    ∃ earlier later, steps = earlier ++ .called call.device call.command :: later ∧
      call.publication = (session.afterAll earlier).publish settings accepts call.device call.command := by
  induction steps generalizing session with
  | nil => cases member
  | cons first rest ih =>
      cases first with
      | reported event =>
          obtain ⟨earlier, later, split, made⟩ := ih member
          exact ⟨.reported event :: earlier, later, congrArg _ split, made⟩
      | called device command =>
          rcases List.mem_cons.mp member with rfl | member
          · exact ⟨[], rest, rfl, rfl⟩
          · obtain ⟨earlier, later, split, made⟩ := ih member
            exact ⟨.called device command :: earlier, later, congrArg _ split, made⟩

end Run

/-- An event about the connection sets the flag, whatever it was before; no other step touches it. -/
theorem step_connected (session : BrokerSession) (step : SessionStep) :
    ((session.step step).connected = true ↔ step.connection? = some (.acknowledged 0) ∨
      step.connection? = none ∧ session.connected = true) := by
  cases step with
  | called device command => simp [BrokerSession.step, SessionStep.connection?]
  | reported event =>
      cases event with
      | acknowledged code => simp [BrokerSession.step, after, SessionStep.connection?]
      | disconnected | failed words | other => simp [BrokerSession.step, after, SessionStep.connection?]

/-- The flag of a new session says what the latest word about the connection is. -/
theorem afterAll_connected (steps : List SessionStep) :
    (start.afterAll steps).connected = true ↔ SessionStep.Accepted steps := by
  induction steps using List.reverseRecOn with
  | nil => simp [afterAll, start, SessionStep.Accepted, SessionStep.connections]
  | append_singleton steps last ih =>
      have stepped : start.afterAll (steps ++ [last]) = (start.afterAll steps).step last := by
        simp only [afterAll, List.foldl_append, List.foldl_cons, List.foldl_nil]
      have connections : SessionStep.connections (steps ++ [last]) =
          SessionStep.connections steps ++ last.connection?.toList := by
        cases found : last.connection? <;> simp [SessionStep.connections, found]
      rw [stepped, step_connected, ih, SessionStep.Accepted, SessionStep.Accepted, connections]
      cases last.connection? <;> simp

section Calls

variable {settings : BrokerSettings} {accepts : BrokerMessage → Bool} {device : DeviceId} {command : Command}

theorem publish_of_connected {session : BrokerSession} (connected : session.connected = true)
    (taken : accepts (message settings device command) = true) :
    session.publish settings accepts device command = ⟨.ok true, some (message settings device command), []⟩ := by
  simp only [publish, connected, taken, if_true]

theorem publish_of_not_connected {session : BrokerSession} (silent : ¬session.connected = true) :
    session.publish settings accepts device command = ⟨.ok false, none, [.brokerMissing device]⟩ :=
  if_neg silent

/-- What becomes of a call after some steps of a new session. -/
theorem publish_cases (earlier : List SessionStep) (taken : accepts (message settings device command) = true) :
    let publication := (start.afterAll earlier).publish settings accepts device command
    (SessionStep.Accepted earlier ∧ publication.value = .ok true ∧
      publication.message = some (message settings device command)) ∨
    (¬SessionStep.Accepted earlier ∧ publication.value = .ok false ∧ publication.message = none) := by
  intro publication
  by_cases accepted : SessionStep.Accepted earlier
  · have made := publish_of_connected ((afterAll_connected earlier).mpr accepted) taken
    exact .inl ⟨accepted, congrArg Publication.value made, congrArg Publication.message made⟩
  · have made : publication = _ := publish_of_not_connected (mt (afterAll_connected earlier).mp accepted)
    exact .inr ⟨accepted, congrArg Publication.value made, congrArg Publication.message made⟩

/-- In every order of the broker's events and of calls, a call on a new session is told that its command is published,
and hands over one message, just when the latest event before it that is about the connection is an acceptance; otherwise
it is told that the command is not published, and hands over nothing. So the messages that are handed over are those of
the calls that were told so, in the order of the calls, each on the topic of its device. -/
theorem publishes_while_accepted (steps : List SessionStep)
    (taken : ∀ device command, .called device command ∈ steps → accepts (message settings device command) = true) :
    let calls := run settings accepts start steps
    (∀ earlier device command later, steps = earlier ++ .called device command :: later →
      ∃ publication others,
        calls = run settings accepts start earlier ++ ⟨device, command, publication⟩ :: others ∧
        (SessionStep.Accepted earlier → publication.value = .ok true ∧
          publication.message = some (message settings device command)) ∧
        (¬SessionStep.Accepted earlier → publication.value = .ok false ∧ publication.message = none)) ∧
    calls.map (fun call => (call.device, call.command)) = steps.filterMap SessionStep.call? ∧
    calls.filterMap (·.publication.message) =
      (calls.filter (·.isPublished)).map (fun call => message settings call.device call.command) ∧
    ∀ device command, (message settings device command).topic = commandTopic settings.baseTopic device ∧
      (message settings device command).payload = (Json.object command).toText := by
  intro calls
  refine ⟨?_, run_calls steps, ?_, fun _ _ => ⟨rfl, rfl⟩⟩
  · intro earlier device command later split
    refine ⟨(start.afterAll earlier).publish settings accepts device command,
      run settings accepts (start.afterAll earlier) later, ?_, ?_⟩
    · simp only [calls, split, run_append, run]
    · have made := publish_cases earlier (taken device command (by simp [split]))
      rcases made with ⟨accepted, value, handed⟩ | ⟨refused, value, handed⟩
      · exact ⟨fun _ => ⟨value, handed⟩, fun refused => absurd accepted refused⟩
      · exact ⟨fun accepted => absurd accepted refused, fun _ => ⟨value, handed⟩⟩
  · rw [← List.filterMap_eq_filter, List.map_filterMap]
    refine List.filterMap_congr fun call member => ?_
    obtain ⟨earlier, later, split, made⟩ := mem_run member
    have cases := publish_cases earlier (taken call.device call.command (by simp [split]))
    rw [← made] at cases
    rcases cases with ⟨-, value, handed⟩ | ⟨-, value, handed⟩ <;>
      simp [BrokerCall.isPublished, value, handed, Option.guard]

/-- The broker accepts, is lost and refuses; of four calls the second and the third get through. -/
theorem publishes_while_accepted_of_porch :
    let settings : BrokerSettings := { baseTopic := "home/" }
    let on : Command := [("action", .text "turn_on")]
    let call : SessionStep := .called ⟨"porch"⟩ on
    let steps : List SessionStep := [call, .reported (.acknowledged 0), call, .reported .other, call,
      .reported (.failed "reset"), .reported (.acknowledged 5), call]
    (∀ device command, .called device command ∈ steps → takes (message settings device command) = true) ∧
    ((run settings takes start steps).filterMap (·.publication.message)).map (fun m => (m.topic, m.payload)) =
      List.replicate 2 ("home/porch/commands", "\x7b\"action\":\"turn_on\"\x7d") := by
  intro settings on call steps
  have taken : ∀ device command, .called device command ∈ steps → takes (message settings device command) = true := by
    intro device command member
    obtain ⟨rfl, rfl⟩ : device = ⟨"porch"⟩ ∧ command = on := by simpa [steps, call] using member
    decide +kernel
  refine ⟨taken, ?_⟩
  rw [(publishes_while_accepted steps taken).2.2.1]
  decide +kernel

end Calls

end BrokerSession

end DeviceRules
