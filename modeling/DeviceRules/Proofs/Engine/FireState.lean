import DeviceRules.FireState

/-! What the fire state remembers of each rule, and when a rule is due. Two instants are never so far apart that the
longest distance would let a longer rate limit pass. -/
namespace DeviceRules

theorem lookup_filter_keys {α β : Type} [BEq α] [LawfulBEq α] (keep : α → Bool) (key : α) (entries : List (α × β)) :
    (entries.filter fun entry => keep entry.1).lookup key = if keep key then entries.lookup key else none := by
  induction entries with
  | nil => simp
  | cons entry rest ih =>
      obtain ⟨known, value⟩ := entry
      by_cases same : key = known
      · subst same
        cases kept : keep key <;> simp [kept, ih]
      · have differ : (key == known) = false := beq_eq_false_iff_ne.mpr same
        cases kept : keep known <;> simp [List.lookup_cons, differ, kept, ih]

/-- A look-up after the entry of a key has been replaced. -/
theorem lookup_replace {α β : Type} [DecidableEq α] (key other : α) (value : β) (entries : List (α × β)) :
    ((key, value) :: entries.filter (·.1 ≠ key)).lookup other =
      if other = key then some value else entries.lookup other := by
  have kept := lookup_filter_keys (fun known => decide (known ≠ key)) other entries
  by_cases same : other = key
  · rw [List.lookup_cons, if_pos same, beq_iff_eq.mpr same]
  · rw [List.lookup_cons, if_neg same, beq_false_of_ne same, kept, if_pos (decide_eq_true same)]

namespace Instant

theorem since_lt_maxDistance (a b : Instant) : a.since b < Duration.maxDistance := by
  have later := a.inRange
  have earlier := b.inRange
  have fraction := a.nano_lt
  simp only [since, nanos, Duration.maxDistance, nanosPerSecond] at *
  split
  · split <;> omega
  · split
    · split <;> omega
    · omega

end Instant

namespace FireState

variable (state : FireState)

theorem lastFired_record (rule other : RuleId) (time : Instant) :
    (state.record rule time).lastFired other = if other = rule then some time else state.lastFired other :=
  lookup_replace rule other time state.entries

theorem lastFired_retain (active : List RuleId) (rule : RuleId) :
    (state.retain active).lastFired rule = if active.contains rule then state.lastFired rule else none :=
  lookup_filter_keys active.contains rule state.entries

variable {state}

theorem mem_entries_iff {rule : RuleId} {time : Instant} :
    (rule, time) ∈ state.entries ↔ state.lastFired rule = some time := by
  constructor
  · intro member
    obtain ⟨before, after, split⟩ := List.append_of_mem member
    refine List.lookup_eq_some_iff.mpr ⟨before, after, split, fun entry inside => ?_⟩
    have distinct := state.distinct
    rw [split, List.map_append, List.nodup_append] at distinct
    have differs := distinct.2.2 entry.1 (List.mem_map_of_mem inside) rule (by simp)
    exact bne_iff_ne.mpr differs.symm
  · intro known
    obtain ⟨before, after, split, _⟩ := List.lookup_eq_some_iff.mp known
    rw [split]
    exact List.mem_append_right before List.mem_cons_self

/-- States that know the same of every rule have the same entries. -/
theorem entries_perm {first second : FireState} (same : ∀ rule, first.lastFired rule = second.lastFired rule) :
    first.entries.Perm second.entries := by
  have entryDistinct (state : FireState) : state.entries.Nodup :=
    (List.pairwise_map.mp state.distinct).imp fun differ equal => differ (congrArg Prod.fst equal)
  refine (List.perm_ext_iff_of_nodup (entryDistinct first) (entryDistinct second)).mpr fun entry => ?_
  rw [mem_entries_iff, mem_entries_iff, same]

theorem retain_congr {active others : List RuleId} (same : ∀ id, id ∈ active ↔ id ∈ others) :
    state.retain active = state.retain others := by
  have kept : active.contains = others.contains := by
    funext id
    rw [Bool.eq_iff_iff, List.contains_iff_mem, List.contains_iff_mem, same]
  simp only [retain, mk.injEq]
  exact congrArg (fun keep => state.entries.filter (keep ·.1)) kept

variable (state)

/-- A rule is due when it has never fired, or when its last firing is as far back as the interval says, however long
that is. -/
theorem isDue_iff (rule : RuleId) (interval : Duration) (now : Instant) :
    state.isDue rule interval now = true ↔
      ∀ last, state.lastFired rule = some last → (interval.nanos : Int) ≤ now.since last := by
  unfold isDue
  cases known : state.lastFired rule with
  | none => simp
  | some last =>
      have apart := now.since_lt_maxDistance last
      simp only [Duration.distance?, Option.some.injEq, forall_eq']
      split
      · simp
      · simp only [Option.getD_none, decide_eq_true_eq]
        omega

end FireState

end DeviceRules
