import DeviceRules.Identifier
import DeviceRules.Time.Instant

/-! When each rule last fired. The state starts empty, so that every rule is due after a restart. -/
namespace DeviceRules

/-- The last firing of each rule that has fired, with one entry for a rule. -/
structure FireState where
  entries : List (RuleId × Instant)
  distinct : (entries.map Prod.fst).Nodup

namespace FireState

def empty : FireState := ⟨[], List.nodup_nil⟩

instance : Inhabited FireState := ⟨empty⟩

def lastFired (state : FireState) (rule : RuleId) : Option Instant := state.entries.lookup rule

/-- Whether the rule has not fired within the last `interval`. An interval that is too long to be the distance of
two instants counts as the longest distance. -/
def isDue (state : FireState) (rule : RuleId) (interval : Duration) (now : Instant) : Bool :=
  match state.lastFired rule with
  | none => true
  | some last =>
      let nanos := interval.distance?.getD Duration.maxDistance
      (nanos : Int) ≤ now.since last

def record (state : FireState) (rule : RuleId) (time : Instant) : FireState where
  entries := (rule, time) :: state.entries.filter (·.1 ≠ rule)
  distinct := List.nodup_cons.mpr
    ⟨by simp, state.distinct.sublist (List.filter_sublist.map Prod.fst)⟩

/-- Forgets the rules that are not among `active`. -/
def retain (state : FireState) (active : List RuleId) : FireState where
  entries := state.entries.filter (active.contains ·.1)
  distinct := state.distinct.sublist (List.filter_sublist.map Prod.fst)

def size (state : FireState) : Nat := state.entries.length

end FireState

end DeviceRules
