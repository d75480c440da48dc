import DeviceRules.Proofs.Evaluation.Answering
import DeviceRules.Proofs.Trees

/-! How a composite goes through its children. A child is judged for its own device, and a misconfiguration of it
is forgiven. Either every judgement is the neutral value, or the first that is not is the value of the whole. -/
namespace DeviceRules

def Addressed.judge (telemetry : Telemetry) (moment : Moment) (child : Addressed Condition) :
    Traced (Except Fault Bool) :=
  Condition.forgive child.node.kind (child.node.evaluate telemetry moment child.target?)

namespace Connective

theorem eq_not_neutral (c : Connective) {operand : Bool} (other : operand ≠ c.neutral) : operand = !c.neutral :=
  Bool.eq_not.mpr other

end Connective

namespace Condition

variable {telemetry : Telemetry} {moment : Moment} {connective : Connective}

section Forgive

variable {kind : String} {child : Traced (Except Fault Bool)}

theorem forgive_of_ok {b : Bool} (found : child.value = .ok b) : forgive kind child = child := by
  simp only [forgive, found]

theorem forgive_of_configuration {error : ConfigurationError} (found : child.value = .error (.configuration error)) :
    forgive kind child = ⟨.ok false, child.events ++ [.childMisconfigured kind error]⟩ := by
  simp only [forgive, found]

theorem forgive_of_outage {outage : Outage} (found : child.value = .error (.outage outage)) :
    forgive kind child = child := by
  simp only [forgive, found]

theorem forgive_queries : (forgive kind child).queries = child.queries := by
  unfold forgive
  split
  · simp [Traced.queries, Event.query?]
  · rfl

end Forgive

theorem judge_queries (child : Addressed Condition) :
    (child.judge telemetry moment).queries = (child.node.evaluate telemetry moment child.target?).queries :=
  forgive_queries

theorem settle_cons (child : Addressed Condition) (rest : List (Addressed Condition)) :
    settle telemetry moment connective (child :: rest) =
      match (child.judge telemetry moment).value with
      | .ok holds =>
          if connective.decides holds then child.judge telemetry moment
          else
            let others := settle telemetry moment connective rest
            ⟨others.value, (child.judge telemetry moment).events ++ others.events⟩
      | .error _ => child.judge telemetry moment := rfl

theorem settle_cons_of_neutral {child : Addressed Condition} (rest : List (Addressed Condition))
    (passes : (child.judge telemetry moment).value = .ok connective.neutral) :
    settle telemetry moment connective (child :: rest) =
      ⟨(settle telemetry moment connective rest).value,
        (child.judge telemetry moment).events ++ (settle telemetry moment connective rest).events⟩ := by
  have undecided : connective.decides connective.neutral = false := by simp [Connective.decides]
  simp only [settle_cons, passes, undecided, Bool.false_eq_true, if_false]

theorem settle_cons_of_ne {child : Addressed Condition} (rest : List (Addressed Condition))
    (stops : (child.judge telemetry moment).value ≠ .ok connective.neutral) :
    settle telemetry moment connective (child :: rest) = child.judge telemetry moment := by
  rw [settle_cons]
  split
  · rename_i holds found
    have decided : connective.decides holds = true := by
      simpa [Connective.decides, found] using stops
    rw [if_pos decided]
  · rfl

theorem settle_append_of_neutral {earlier : List (Addressed Condition)} (rest : List (Addressed Condition))
    (passed : ∀ e ∈ earlier, (e.judge telemetry moment).value = .ok connective.neutral) :
    settle telemetry moment connective (earlier ++ rest) =
      ⟨(settle telemetry moment connective rest).value,
        (earlier.flatMap fun e => (e.judge telemetry moment).events) ++
          (settle telemetry moment connective rest).events⟩ := by
  induction earlier with
  | nil => rfl
  | cons first others ih =>
      obtain ⟨passes, passed⟩ := List.forall_mem_cons.mp passed
      rw [List.cons_append, settle_cons_of_neutral _ passes, ih passed, List.flatMap_cons, List.append_assoc]

theorem settle_of_neutral {children : List (Addressed Condition)}
    (passed : ∀ child ∈ children, (child.judge telemetry moment).value = .ok connective.neutral) :
    settle telemetry moment connective children =
      ⟨.ok connective.neutral, children.flatMap fun child => (child.judge telemetry moment).events⟩ := by
  simpa [settle] using settle_append_of_neutral [] passed

/-- The first child whose judgement is not neutral, if there is one. -/
theorem exists_first_stop (telemetry : Telemetry) (moment : Moment) (connective : Connective)
    (children : List (Addressed Condition)) :
    (∀ child ∈ children, (child.judge telemetry moment).value = .ok connective.neutral) ∨
    ∃ earlier child later, children = earlier ++ child :: later ∧
      (∀ e ∈ earlier, (e.judge telemetry moment).value = .ok connective.neutral) ∧
      (child.judge telemetry moment).value ≠ .ok connective.neutral := by
  induction children with
  | nil => exact .inl (by simp)
  | cons first rest ih =>
      by_cases passes : (first.judge telemetry moment).value = .ok connective.neutral
      · rcases ih with all | ⟨earlier, child, later, split, passed, stops⟩
        · exact .inl (List.forall_mem_cons.mpr ⟨passes, all⟩)
        · exact .inr ⟨first :: earlier, child, later, by rw [split, List.cons_append],
            List.forall_mem_cons.mpr ⟨passes, passed⟩, stops⟩
      · exact .inr ⟨[], first, rest, rfl, by simp, passes⟩

/-- Everything that a walk can do: it passes every child, or it ends at the first whose judgement is not neutral. -/
theorem settle_cases (telemetry : Telemetry) (moment : Moment) (connective : Connective)
    (children : List (Addressed Condition)) :
    ((∀ child ∈ children, (child.judge telemetry moment).value = .ok connective.neutral) ∧
      settle telemetry moment connective children =
        ⟨.ok connective.neutral, children.flatMap fun child => (child.judge telemetry moment).events⟩) ∨
    ∃ earlier child later, children = earlier ++ child :: later ∧
      (∀ e ∈ earlier, (e.judge telemetry moment).value = .ok connective.neutral) ∧
      (child.judge telemetry moment).value ≠ .ok connective.neutral ∧
      settle telemetry moment connective children =
        ⟨(child.judge telemetry moment).value,
          (earlier ++ [child]).flatMap fun e => (e.judge telemetry moment).events⟩ := by
  rcases exists_first_stop telemetry moment connective children with
    all | ⟨earlier, child, later, split, passed, stops⟩
  · exact .inl ⟨all, settle_of_neutral all⟩
  · refine .inr ⟨earlier, child, later, split, passed, stops, ?_⟩
    rw [split, settle_append_of_neutral _ passed, settle_cons_of_ne later stops, List.flatMap_append,
      List.flatMap_singleton]

theorem judge_error {child : Addressed Condition} {fault : Fault}
    (failed : (child.judge telemetry moment).value = .error fault) :
    (child.node.evaluate telemetry moment child.target?).value = .error fault ∧
      ∀ error, fault ≠ .configuration error := by
  unfold Addressed.judge forgive at failed
  split at failed
  · contradiction
  · rename_i other
    exact ⟨failed, fun error same => other error (same ▸ failed)⟩

end Condition

end DeviceRules
