import DeviceRules.Proofs.Execution.Leaves

/-! What carrying out an action reports. Each leaf has its turn in the world that the attempts before it leave, and
succeeds or fails there. An action succeeds just when all its leaves do; a sequence reports how many of its own steps
have a leaf below them that fails, and every other fault is that of an action that is a leaf. -/
namespace DeviceRules

/-- A node of an action with the device that it is for, in the world that its turn finds. -/
structure Stage (σ : Type) where
  device : Option DeviceId
  action : Action
  world : σ

def Addressed.task (step : Addressed Action) : Option DeviceId × Action := (step.target?, step.node)

namespace Action

/-- The leaves of an action, each with the device that it is for: a leaf is for the given one, and those of a sequence
are each for the device of its own step. -/
def tasks (device : Option DeviceId) : Action → List (Option DeviceId × Action)
  | sequence steps => (leavesOf steps).map Addressed.task
  | leaf => [(device, leaf)]

theorem tasks_of_leaf {action : Action} (leaf : action.isLeaf = true) (device : Option DeviceId) :
    action.tasks device = [(device, action)] := by
  cases action with
  | sequence steps => contradiction
  | _ => rfl

theorem tasks_sequence_cons (device : Option DeviceId) (step : Addressed Action) (rest : List (Addressed Action)) :
    (sequence (step :: rest)).tasks device = step.node.tasks step.target? ++ (sequence rest).tasks device := by
  obtain ⟨named, node⟩ := step
  simp only [tasks, leavesOf, List.map_append]
  cases node <;> rfl

/-- The effects of an action are those of its leaves. -/
theorem tasks_effects (action : Action) : ∀ device : Option DeviceId,
    (action.tasks device).flatMap (fun task => task.2.effects task.1) = action.effects device := by
  induction action using Action.nodeInduction with
  | sequence steps ih =>
      intro device
      induction steps with
      | nil => rfl
      | cons step rest tail =>
          obtain ⟨here, others⟩ := List.forall_mem_cons.mp ih
          rw [tasks_sequence_cons, effects_sequence_cons, List.flatMap_append, here, tail others]
  | _ => exact fun _ => List.flatMap_singleton ..

end Action

namespace Surroundings

variable {σ : Type} (s : Surroundings σ)

/-- Some nodes, one after the other, each in the world that the effects of those before it leave. -/
def stages : List (Option DeviceId × Action) → σ → List (Stage σ)
  | [], _ => []
  | (device, action) :: rest, world =>
      ⟨device, action, world⟩ :: stages rest (s.worldAfter (action.effects device) world)

/-- Whether a leaf does what it is for: a command is accepted, a request is answered with a status from 200 to 299, and
a message goes to the log. -/
def succeeds (leaf : Stage σ) : Bool :=
  match leaf.action with
  | .command body => leaf.device.any fun d => (s.publish d body leaf.world).value.toOption == some true
  | .notification _ channel => channel == logChannel
  | .webhook hook => (s.send hook.request leaf.world).value.toOption.any fun status => status / 100 == 2
  | .delay _ => true
  | .sequence _ | .unsupported _ _ => false

def fails (stage : Stage σ) : Bool :=
  (s.stages (stage.action.tasks stage.device) stage.world).any fun leaf => !s.succeeds leaf

theorem stages_append (first second : List (Option DeviceId × Action)) : ∀ world : σ,
    s.stages (first ++ second) world = s.stages first world ++
      s.stages second (s.worldAfter (first.flatMap fun task => task.2.effects task.1) world) := by
  induction first with
  | nil => exact fun _ => rfl
  | cons task rest ih =>
      intro world
      simp only [List.cons_append, stages, ih, List.flatMap_cons, worldAfter_append]

theorem stages_length (tasks : List (Option DeviceId × Action)) : ∀ world : σ,
    (s.stages tasks world).length = tasks.length := by
  induction tasks with
  | nil => exact fun _ => rfl
  | cons task rest ih => exact fun world => congrArg (· + 1) (ih _)

/-- The turns of the leaves of a sequence are those of the leaves of its steps. -/
theorem stages_sequence (device : Option DeviceId) (steps : List (Addressed Action)) : ∀ world : σ,
    s.stages ((Action.sequence steps).tasks device) world =
      (s.stages (steps.map Addressed.task) world).flatMap fun step =>
        s.stages (step.action.tasks step.device) step.world := by
  induction steps with
  | nil => exact fun _ => rfl
  | cons step rest ih =>
      intro world
      rw [Action.tasks_sequence_cons, stages_append, Action.tasks_effects, ih]
      rfl

theorem fails_of_leaf {action : Action} (leaf : action.isLeaf = true) (device : Option DeviceId) (world : σ) :
    s.fails ⟨device, action, world⟩ = !s.succeeds ⟨device, action, world⟩ := by
  simp [fails, Action.tasks_of_leaf leaf, stages]

theorem fails_sequence (device : Option DeviceId) (steps : List (Addressed Action)) (world : σ) :
    s.fails ⟨device, .sequence steps, world⟩ = (s.stages (steps.map Addressed.task) world).any s.fails := by
  simp only [fails, stages_sequence, List.any_flatMap]
  rfl

/-- All that an action that is a leaf can report. -/
inductive LeafReport (succeeds : Bool) : Except Fault Unit → Prop
  | done (well : succeeds = true) : LeafReport succeeds (.ok ())
  | misconfigured {error} (badly : succeeds = false) : LeafReport succeeds (.error (.configuration error))
  | notPublished {d} (badly : succeeds = false) : LeafReport succeeds (.error (.delivery (.notPublished d)))
  | webhookStatus {url status} (badly : succeeds = false) :
      LeafReport succeeds (.error (.delivery (.webhookStatus url status)))
  | down {outage} (badly : succeeds = false) : LeafReport succeeds (.error (.outage outage))

theorem execute_leaf_reports {action : Action} (leaf : action.isLeaf = true) (device : Option DeviceId) (world : σ) :
    LeafReport (s.succeeds ⟨device, action, world⟩) (s.execute device action world).value := by
  cases action with
  | command body =>
      cases device with
      | none => exact .misconfigured rfl
      | some d =>
          simp only [execute, perform, succeeds]
          split
          · rename_i sent
            exact .done (by simp [sent, Except.toOption])
          · rename_i sent
            exact .notPublished (by simp [sent, Except.toOption])
          · rename_i outage sent
            exact .down (by simp [sent, Except.toOption])
  | notification message channel =>
      simp only [execute]
      split
      · rename_i known
        exact .done (by simp [succeeds, known])
      · rename_i unknown
        exact .misconfigured (by simp [succeeds, unknown])
  | webhook hook =>
      simp only [execute, perform, succeeds]
      split
      · rename_i status sent
        have hundreds : (status / 100 == 2) = isSuccess status := by
          rw [Bool.eq_iff_iff]
          simp only [isSuccess, beq_iff_eq, Bool.and_eq_true, decide_eq_true_eq]
          omega
        split
        · rename_i well
          exact .done (by simp [sent, Except.toOption, hundreds, well])
        · rename_i badly
          exact .webhookStatus (by simp [sent, Except.toOption, hundreds, badly])
      · rename_i outage sent
        exact .down (by simp [sent, Except.toOption])
  | delay seconds => exact .done rfl
  | sequence steps => contradiction
  | unsupported kind defect => exact .misconfigured rfl

theorem LeafReport.ok_iff {succeeds : Bool} {value : Except Fault Unit} (report : LeafReport succeeds value) :
    value = .ok () ↔ succeeds = true := by
  cases report <;> simp_all

/-- A step that does not succeed is counted. -/
theorem executeSteps_value_cons (index : Nat) (step : Addressed Action) (rest : List (Addressed Action)) (world : σ) :
    (s.executeSteps index (step :: rest) world).value =
      (s.executeSteps (index + 1) rest (s.execute step.target? step.node world).world).value +
        if (s.execute step.target? step.node world).value.toOption.isSome then 0 else 1 := by
  obtain ⟨named, node⟩ := step
  simp only [executeSteps, Addressed.target?]
  split <;> simp_all [Except.toOption]

theorem toOption_isSome_iff {value : Except Fault Unit} : value.toOption.isSome = true ↔ value = .ok () := by
  cases value <;> simp [Except.toOption]

/-- A sequence counts the steps that fail. -/
theorem executeSteps_fails {steps : List (Addressed Action)}
    (each : ∀ step ∈ steps, ∀ world, (s.execute step.target? step.node world).value = .ok () ↔
      s.fails ⟨step.target?, step.node, world⟩ = false) :
    ∀ (index : Nat) (world : σ), (s.executeSteps index steps world).value =
      (s.stages (steps.map Addressed.task) world).countP s.fails := by
  induction steps with
  | nil => exact fun _ _ => rfl
  | cons step rest ih =>
      intro index world
      obtain ⟨here, others⟩ := List.forall_mem_cons.mp each
      have counted : (if (s.execute step.target? step.node world).value.toOption.isSome then 0 else 1) =
          if s.fails ⟨step.target?, step.node, world⟩ then 1 else 0 := by
        simp only [toOption_isSome_iff, here world]
        cases s.fails ⟨step.target?, step.node, world⟩ <;> rfl
      rw [executeSteps_value_cons, ih others, (s.execute_effects step.node step.target? world).2, counted]
      exact List.countP_cons.symm

theorem execute_sequence (device : Option DeviceId) (steps : List (Addressed Action)) (world : σ) :
    (s.execute device (.sequence steps) world).value =
      if (s.executeSteps 0 steps world).value = 0 then .ok ()
      else .error (.delivery (.sequenceIncomplete (s.executeSteps 0 steps world).value steps.length)) := by
  simp only [execute]
  split <;> rfl

/-- An action reports success when no leaf of it fails. -/
theorem execute_ok_iff (action : Action) : ∀ (device : Option DeviceId) (world : σ),
    (s.execute device action world).value = .ok () ↔ s.fails ⟨device, action, world⟩ = false := by
  induction action using Action.nodeInduction with
  | sequence steps ih =>
      intro device world
      have failed := s.executeSteps_fails (fun step inside => ih step inside step.target?) 0 world
      rw [execute_sequence, failed, fails_sequence]
      simp
  | _ =>
      intro device world
      rw [s.fails_of_leaf rfl, (s.execute_leaf_reports rfl device world).ok_iff, Bool.not_eq_false']

/-- An action succeeds just when each of its leaves does, in the world that its turn finds. A sequence reports nothing
but how many of its own steps fail, which are those with a leaf below them that does, however deep and however many.
All other faults are those of an action that is a leaf. -/
theorem execute_reports_failures (device : Option DeviceId) (action : Action) (world : σ) :
    ((s.execute device action world).value = .ok () ↔
      ∀ leaf ∈ s.stages (action.tasks device) world, s.succeeds leaf = true) ∧
    (∀ steps, action = .sequence steps →
      let failed := (s.stages (steps.map Addressed.task) world).countP s.fails
      (s.execute device action world).value = .ok () ∧ failed = 0 ∨
        (s.execute device action world).value = .error (.delivery (.sequenceIncomplete failed steps.length)) ∧
          1 ≤ failed ∧ failed ≤ steps.length) ∧
    ∀ fault, (s.execute device action world).value = .error fault → action.isLeaf = true →
      (∃ error, fault = .configuration error) ∨ (∃ outage, fault = .outage outage) ∨
        (∃ d, fault = .delivery (.notPublished d)) ∨ ∃ url status, fault = .delivery (.webhookStatus url status) := by
  refine ⟨?_, ?_, ?_⟩
  · rw [execute_ok_iff]
    simp [fails]
  · rintro steps rfl failed
    have count : (s.executeSteps 0 steps world).value = failed :=
      s.executeSteps_fails (fun step _ => s.execute_ok_iff step.node step.target?) 0 world
    have few : failed ≤ steps.length := by
      calc failed ≤ (s.stages (steps.map Addressed.task) world).length := List.countP_le_length
        _ = steps.length := by rw [stages_length, List.length_map]
    rw [execute_sequence, count]
    by_cases none : failed = 0
    · exact .inl ⟨if_pos none, none⟩
    · exact .inr ⟨if_neg none, Nat.one_le_iff_ne_zero.mpr none, few⟩
  · intro fault failed leaf
    have report := s.execute_leaf_reports leaf device world
    rw [failed] at report
    cases report with
    | misconfigured => exact .inl ⟨_, rfl⟩
    | notPublished => exact .inr (.inr (.inl ⟨_, rfl⟩))
    | webhookStatus => exact .inr (.inr (.inr ⟨_, _, rfl⟩))
    | down => exact .inr (.inl ⟨_, rfl⟩)

/-- Two leaves that fail below one step are one step that fails. -/
example :
    let mail (message : String) : Addressed Action := ⟨none, .notification message "mail"⟩
    (World.surroundings.execute none (.sequence [⟨none, .sequence [mail "first", mail "second"]⟩,
      ⟨none, .notification "third" logChannel⟩]) (World.memory .epoch)).value =
        .error (.delivery (.sequenceIncomplete 1 2)) := rfl

end Surroundings

end DeviceRules
