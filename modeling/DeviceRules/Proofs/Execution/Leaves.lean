import DeviceRules.Proofs.Trees
import DeviceRules.Simulation.World

/-! What carrying out an action attempts. Every leaf of the tree is attempted once, in the order of the document and
whatever came of those before it, so the attempts can be read off the tree. The channels and the timer are called for
just these attempts, one after the other. -/
namespace DeviceRules

variable {σ α : Type}

def Outcome.effects (outcome : Outcome σ α) : List Effect := outcome.events.filterMap Event.effect?

namespace Action

/-- The effect that a node asks for by itself, for a device. Only a leaf that can be interpreted has one. -/
def ownEffect? (device : Option DeviceId) : Action → Option Effect
  | command body => device.map fun d => .publish d body
  | notification message channel => if channel = logChannel then some (.notify message) else none
  | webhook hook => some (.request hook.request)
  | delay seconds => some (.wait (.ofSeconds seconds))
  | sequence _ | unsupported _ _ => none

def isLeaf : Action → Bool
  | sequence _ => false
  | _ => true

mutual

/-- The leaves of an action in the order of the document, each with the device that its own step names. -/
def leaves (named : Option DeviceId) : Action → List (Addressed Action)
  | sequence steps => leavesOf steps
  | leaf => [⟨named, leaf⟩]

def leavesOf : List (Addressed Action) → List (Addressed Action)
  | [] => []
  | ⟨named, node⟩ :: rest => node.leaves named ++ leavesOf rest

end

/-- The effects of an action: that of a leaf for the given device, and those of the leaves of a sequence, each for the
device of its own step. -/
def effects (device : Option DeviceId) : Action → List Effect
  | sequence steps => (leavesOf steps).filterMap fun leaf => leaf.node.ownEffect? leaf.target?
  | leaf => (leaf.ownEffect? device).toList

theorem effects_of_leaf {action : Action} (leaf : action.isLeaf = true) (device : Option DeviceId) :
    action.effects device = (action.ownEffect? device).toList := by
  cases action with
  | sequence steps => contradiction
  | _ => rfl

theorem effects_sequence_cons (device : Option DeviceId) (step : Addressed Action) (rest : List (Addressed Action)) :
    (sequence (step :: rest)).effects device =
      step.node.effects step.target? ++ (sequence rest).effects device := by
  obtain ⟨named, node⟩ := step
  simp only [effects, leavesOf, List.filterMap_append]
  cases node with
  | sequence steps => rfl
  | _ =>
      simp only [leaves, List.filterMap_cons, List.filterMap_nil]
      split <;> simp_all

end Action

namespace Surroundings

variable (s : Surroundings σ)

/-- The world after a channel or the timer is called for an effect. A message is only a line of the log. -/
def call (effect : Effect) (world : σ) : σ :=
  match effect with
  | .publish device command => (s.publish device command world).world
  | .request request => (s.send request world).world
  | .notify _ => world
  | .wait duration => s.wait duration world

/-- The world after the calls for some effects, one after the other. -/
def worldAfter (effects : List Effect) (world : σ) : σ :=
  effects.foldl (fun world effect => s.call effect world) world

theorem worldAfter_append (first second : List Effect) (world : σ) :
    s.worldAfter (first ++ second) world = s.worldAfter second (s.worldAfter first world) :=
  List.foldl_append

theorem effects_of_reports {events : List Event} (reports : ∀ event ∈ events, event.isOwn = false) :
    events.filterMap Event.effect? = [] := by
  apply List.filterMap_eq_nil_iff.mpr
  intro event member
  cases event with
  | attempted effect => exact absurd (reports _ member) (by simp [Event.isOwn])
  | _ => rfl

theorem perform_world (effect : Effect) (world : σ) : (s.perform effect world).world = s.call effect world := by
  cases effect with
  | publish device command =>
      simp only [perform]
      split <;> rfl
  | request request =>
      simp only [perform]
      split
      · split <;> rfl
      · rfl
  | notify message | wait duration => rfl

theorem perform_effects (effect : Effect) (world : σ) : (s.perform effect world).effects = [effect] := by
  cases effect with
  | publish device command =>
      have quiet := effects_of_reports (s.publish_reports device command world)
      simp only [perform]
      split <;> simp [Outcome.effects, Event.effect?, quiet]
  | request request =>
      have quiet := effects_of_reports (s.send_reports request world)
      simp only [perform]
      split
      · split <;> simp [Outcome.effects, Event.effect?, quiet]
      · simp [Outcome.effects, Event.effect?, quiet]
  | notify message => rfl
  | wait duration => rfl

/-- A leaf brings about its own effect, or declines. -/
theorem execute_leaf {action : Action} (leaf : action.isLeaf = true) (device : Option DeviceId) (world : σ) :
    (∃ effect, action.ownEffect? device = some effect ∧ s.execute device action world = s.perform effect world) ∨
    (action.ownEffect? device = none ∧ ∃ error, s.execute device action world = decline error world) := by
  cases action with
  | command body =>
      cases device with
      | none => exact .inr ⟨rfl, _, rfl⟩
      | some d => exact .inl ⟨_, rfl, rfl⟩
  | notification message channel =>
      by_cases known : channel = logChannel
      · exact .inl ⟨_, if_pos known, if_pos known⟩
      · exact .inr ⟨if_neg known, _, if_neg known⟩
  | webhook hook => exact .inl ⟨_, rfl, rfl⟩
  | delay seconds => exact .inl ⟨_, rfl, rfl⟩
  | sequence steps => contradiction
  | unsupported kind defect => exact .inr ⟨rfl, _, rfl⟩

/-- What a step of a sequence adds to the steps after it. -/
theorem executeSteps_cons (index : Nat) (step : Addressed Action) (rest : List (Addressed Action)) (world : σ) :
    (s.executeSteps index (step :: rest) world).effects =
        (s.execute step.target? step.node world).effects ++
          (s.executeSteps (index + 1) rest (s.execute step.target? step.node world).world).effects ∧
      (s.executeSteps index (step :: rest) world).world =
        (s.executeSteps (index + 1) rest (s.execute step.target? step.node world).world).world := by
  obtain ⟨named, node⟩ := step
  simp only [executeSteps, Addressed.target?]
  split
  · simp [Outcome.effects]
  · simp [Outcome.effects, Event.effect?, List.filterMap_cons]

/-- The steps of a sequence as they are carried out, whatever number the first of them has. -/
theorem executeSteps_effects {steps : List (Addressed Action)}
    (each : ∀ step ∈ steps, ∀ world,
      (s.execute step.target? step.node world).effects = step.node.effects step.target? ∧
        (s.execute step.target? step.node world).world = s.worldAfter (step.node.effects step.target?) world) :
    ∀ (index : Nat) (world : σ),
      (s.executeSteps index steps world).effects = (Action.sequence steps).effects none ∧
        (s.executeSteps index steps world).world =
          s.worldAfter ((Action.sequence steps).effects none) world := by
  induction steps with
  | nil => exact fun _ _ => ⟨rfl, rfl⟩
  | cons step rest ih =>
      intro index world
      obtain ⟨here, others⟩ := List.forall_mem_cons.mp each
      obtain ⟨effects, worlds⟩ := s.executeSteps_cons index step rest world
      obtain ⟨first, left⟩ := here world
      obtain ⟨later, last⟩ := ih others (index + 1) (s.execute step.target? step.node world).world
      rw [Action.effects_sequence_cons, effects, worlds, first, later, last, left, worldAfter_append]
      exact ⟨rfl, rfl⟩

theorem execute_leaf_effects {action : Action} (leaf : action.isLeaf = true) (device : Option DeviceId) (world : σ) :
    (s.execute device action world).effects = action.effects device ∧
      (s.execute device action world).world = s.worldAfter (action.effects device) world := by
  rw [Action.effects_of_leaf leaf]
  rcases s.execute_leaf leaf device world with ⟨effect, own, run⟩ | ⟨none, error, run⟩
  · rw [run, own]
    exact ⟨s.perform_effects effect world, s.perform_world effect world⟩
  · rw [run, none]
    constructor <;> rfl

theorem execute_effects (action : Action) : ∀ (device : Option DeviceId) (world : σ),
    (s.execute device action world).effects = action.effects device ∧
      (s.execute device action world).world = s.worldAfter (action.effects device) world := by
  induction action using Action.nodeInduction with
  | sequence steps ih =>
      intro device world
      have run := s.executeSteps_effects (fun step member => ih step member step.target?) 0 world
      simp only [execute]
      split <;> exact run
  | _ => exact s.execute_leaf_effects rfl

end Surroundings

end DeviceRules
