import DeviceRules.Proofs.Document.Action
import DeviceRules.Proofs.Document.Condition

/-! How far a bad element of a document reaches. Each element of an array of conditions or of actions is decoded on its
own, so a composite or a sequence decodes whatever stands in its array, and an element that is replaced, at any depth,
changes the decoded tree at its own place and nowhere else. -/
namespace DeviceRules

section Places

variable {α : Type} (below : α → List α)

/-- What stands at the end of a path. Each number of the path picks one of those below. -/
def nodeAt? (top : α) : List Nat → Option α
  | [] => some top
  | i :: path => (below top)[i]?.bind fun next => nodeAt? next path

/-- A tree has changed at the end of a path, where something new stands now. What stands beside the path is as it was,
and what stands on the path above its end is `Alike`. -/
structure ChangesOnlyAt (Alike : α → α → Prop) (path : List Nat) (before after new : α) : Prop where
  there : nodeAt? below after path = some new
  beside : ∀ other, ¬path <+: other → ¬other <+: path → nodeAt? below after other = nodeAt? below before other
  above : ∀ higher, higher <+: path → higher ≠ path →
    ∃ old now, nodeAt? below before higher = some old ∧ nodeAt? below after higher = some now ∧ Alike old now

variable {below} {Alike : α → α → Prop} {i : Nat} {path : List Nat} {before after old now new : α}

theorem nodeAt?_cons (found : (below before)[i]? = some old) (place : List Nat) :
    nodeAt? below before (i :: place) = nodeAt? below old place := by
  rw [nodeAt?, found, Option.bind_some]

/-- A change below one of those below a node is a change below the node, when the others below it stay. -/
theorem ChangesOnlyAt.cons (inner : ChangesOnlyAt below Alike path old now new) (alike : Alike before after)
    (foundOld : (below before)[i]? = some old) (foundNow : (below after)[i]? = some now)
    (others : ∀ j, j ≠ i → (below after)[j]? = (below before)[j]?) :
    ChangesOnlyAt below Alike (i :: path) before after new where
  there := (nodeAt?_cons foundNow path).trans inner.there
  beside other apart inside := by
    cases other with
    | nil => exact absurd List.nil_prefix inside
    | cons j place =>
        by_cases same : j = i
        · subst same
          simp only [List.cons_prefix_cons, true_and] at apart inside
          rw [nodeAt?_cons foundNow, nodeAt?_cons foundOld, inner.beside place apart inside]
        · rw [nodeAt?, nodeAt?, others j same]
  above higher first proper := by
    cases higher with
    | nil => exact ⟨before, after, rfl, rfl, alike⟩
    | cons j place =>
        obtain ⟨rfl, begins⟩ := List.cons_prefix_cons.mp first
        rw [nodeAt?_cons foundNow, nodeAt?_cons foundOld]
        exact inner.above place begins fun same => proper (congrArg _ same)

end Places

namespace Fields

def update (key : String) (f : Json → Json) : Fields → Fields
  | [] => []
  | (name, value) :: rest => if name = key then (name, f value) :: rest else (name, value) :: update key f rest

theorem get?_update (key : String) (f : Json → Json) (fields : Fields) (name : String) :
    get? (update key f fields) name = if name = key then (get? fields key).map f else get? fields name := by
  induction fields with
  | nil => simp [update]
  | cons entry rest ih =>
      obtain ⟨first, value⟩ := entry
      by_cases here : first = key
      · subst here
        simp only [update, if_true, get?_cons]
        split <;> rfl
      · simp only [update, here, if_false, get?_cons, ih, Ne.symm here]
        split
        case isTrue found => rw [if_neg (found ▸ here)]
        case isFalse => rfl

end Fields

namespace Json

def onArray (f : List Json → List Json) : Json → Json
  | array items => array (f items)
  | json => json

variable {key : String} {value document : Json} {i : Nat} {path : List Nat}

end Json

namespace Condition

def ofElement (json : Json) : Addressed Condition := ⟨deviceOf json, ofJson json⟩

def children : Condition → List (Addressed Condition)
  | composite _ children => children
  | _ => []

end Condition

namespace Action

def ofElement (json : Json) : Addressed Action := ⟨deviceOf json, ofJson json⟩

def steps : Action → List (Addressed Action)
  | sequence steps => steps
  | _ => []

end Action

end DeviceRules
