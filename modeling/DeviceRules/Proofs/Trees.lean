import DeviceRules.Action.Basic
import DeviceRules.Condition.Basic

/-! Induction over conditions and over actions. The nodes below a composite or a sequence stand in a list together
with their devices; the hypothesis of such a node speaks of every member of that list. -/
namespace DeviceRules

@[elab_as_elim]
theorem Condition.nodeInduction {motive : Condition → Prop}
    (threshold : ∀ c, motive (.threshold c)) (change : ∀ c, motive (.change c)) (time : ∀ c, motive (.time c))
    (status : ∀ expected, motive (.status expected))
    (composite : ∀ connective children, (∀ child ∈ children, motive child.node) →
      motive (.composite connective children))
    (unsupported : ∀ kind defect, motive (.unsupported kind defect)) (c : Condition) : motive c := by
  refine @Condition.rec motive (fun children => ∀ child ∈ children, motive child.node) (fun child => motive child.node)
    threshold change time status composite unsupported ?_ ?_ ?_ c
  · simp
  · intro child rest node nodes
    exact List.forall_mem_cons.mpr ⟨node, nodes⟩
  · intro device node holds
    exact holds

def Condition.isLeaf : Condition → Bool
  | composite _ _ => false
  | _ => true

@[elab_as_elim]
theorem Condition.leafInduction {motive : Condition → Prop} (leaf : ∀ c, c.isLeaf = true → motive c)
    (composite : ∀ connective children, (∀ child ∈ children, motive child.node) →
      motive (.composite connective children)) (c : Condition) : motive c := by
  induction c using Condition.nodeInduction with
  | composite connective children ih => exact composite connective children ih
  | _ => exact leaf _ rfl

@[elab_as_elim]
theorem Action.nodeInduction {motive : Action → Prop}
    (command : ∀ body, motive (.command body))
    (notification : ∀ message channel, motive (.notification message channel))
    (webhook : ∀ hook, motive (.webhook hook)) (delay : ∀ seconds, motive (.delay seconds))
    (sequence : ∀ steps, (∀ step ∈ steps, motive step.node) → motive (.sequence steps))
    (unsupported : ∀ kind defect, motive (.unsupported kind defect)) (action : Action) : motive action := by
  refine @Action.rec motive (fun steps => ∀ step ∈ steps, motive step.node) (fun step => motive step.node)
    command notification webhook delay sequence unsupported ?_ ?_ ?_ action
  · simp
  · intro step rest node nodes
    exact List.forall_mem_cons.mpr ⟨node, nodes⟩
  · intro device node holds
    exact holds

end DeviceRules
