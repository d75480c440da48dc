import DeviceRules.Memory
import DeviceRules.Proofs.Database.RuleHistory

/-! Switching rules on and off in a list. A list takes every rule that has a name, also under an identifier that it
knows, and switches the first one of an identifier only; those inserted later keep the flag that they came with. So
toggling decides whether an identifier is active just as long as no other rule has been inserted under it. A table
refuses the second insertion. -/
namespace DeviceRules

def Rule.switch (active : Bool) (rule : Rule) : Rule := { rule with active }

namespace RuleCall

def offered? (id : RuleId) : RuleCall → Option Rule
  | insert rule => if (insert rule).offers id then some rule else none
  | setActive _ _ => none

/-- The rules that some calls offer under an identifier, in their order. -/
def offered (id : RuleId) (calls : List RuleCall) : List Rule := calls.filterMap (offered? id)

theorem offered_append (id : RuleId) (calls : List RuleCall) (call : RuleCall) :
    offered id (calls ++ [call]) = offered id calls ++ (offered? id call).toList := by
  rw [offered, List.filterMap_append, ← offered]
  cases found : offered? id call <;> simp [found]

end RuleCall

namespace RuleList

/-- The list after a call. An insertion that fails leaves it as it was. -/
def apply (list : RuleList) : RuleCall → RuleList
  | .insert rule =>
      match list.insert rule with
      | .ok next => next
      | .error _ => list
  | .setActive id active => (list.setActive id active).2

def after (calls : List RuleCall) : RuleList := calls.foldl apply empty

def under (list : RuleList) (id : RuleId) : List Rule := list.rules.filter (·.id = id)

theorem after_append (calls : List RuleCall) (call : RuleCall) :
    after (calls ++ [call]) = (after calls).apply call := by
  rw [after, List.foldl_append]
  rfl

variable (list : RuleList) (id : RuleId)

theorem apply_insert (rule : Rule) :
    list.apply (.insert rule) = if Text.isBlankText rule.name then list else ⟨list.rules ++ [rule]⟩ := by
  rw [apply, insert, Rule.validate]
  cases Text.isBlankText rule.name <;> rfl

theorem under_insert (rule : Rule) :
    (list.apply (.insert rule)).under id = list.under id ++ (RuleCall.offered? id (.insert rule)).toList := by
  rw [apply_insert, RuleCall.offered?, RuleCall.offers]
  cases Text.isBlankText rule.name with
  | true => simp
  | false => by_cases own : rule.id = id <;> simp [under, own]

/-- Only the first rule under an identifier is switched. -/
theorem filter_setFirst (other : RuleId) (active : Bool) (rules : List Rule) :
    (setFirst other active rules).filter (·.id = id) =
      if other = id then (rules.filter (·.id = id)).modifyHead (Rule.switch active) else rules.filter (·.id = id) := by
  induction rules with
  | nil => simp [setFirst]
  | cons rule rest ih =>
      by_cases own : rule.id = id
      · subst own
        by_cases first : rule.id = other
        · simp [setFirst, first, Rule.switch]
        · simp [setFirst, first, Ne.symm first, ih]
      · by_cases first : rule.id = other
        · simp [setFirst, ← first, own]
        · simp [setFirst, first, own, ih]

theorem under_setActive (other : RuleId) (active : Bool) :
    (list.setActive other active).2.under id =
      if other = id then (list.under id).modifyHead (Rule.switch active) else list.under id :=
  filter_setFirst id other active list.rules

/-- The active rules of an identifier are counted among those under it. -/
theorem countP_activeRules : list.activeRules.countP (·.id = id) = (list.under id).countP (·.active) := by
  rw [activeRules, under, List.countP_filter, List.countP_filter]
  exact List.countP_congr fun rule _ => by simp [and_comm]

theorem contains_iff : list.contains id = true ↔ list.under id ≠ [] := by
  simp [contains, under, List.filter_eq_nil_iff]

/-- Under each identifier stand the rules that were offered, and all but the first of them as they were offered. -/
theorem under_after (calls : List RuleCall) (id : RuleId) :
    ((after calls).under id).length = (RuleCall.offered id calls).length ∧
      ((after calls).under id).tail = (RuleCall.offered id calls).tail := by
  induction calls using List.reverseRecOn with
  | nil => exact ⟨rfl, rfl⟩
  | append_singleton calls call ih =>
      obtain ⟨length, tail⟩ := ih
      rw [after_append, RuleCall.offered_append]
      cases call with
      | insert rule =>
          rw [under_insert]
          refine ⟨by rw [List.length_append, length, List.length_append], ?_⟩
          have first : (after calls).under id = [] ↔ RuleCall.offered id calls = [] := by
            rw [← List.length_eq_zero_iff, length, List.length_eq_zero_iff]
          by_cases unknown : RuleCall.offered id calls = []
          · rw [unknown, first.mpr unknown]
          · rw [List.tail_append_of_ne_nil unknown, List.tail_append_of_ne_nil (mt first.mp unknown), tail]
      | setActive other active =>
          rw [apply, under_setActive, RuleCall.offered?, Option.toList_none, List.append_nil]
          split
          · rw [List.length_modifyHead, List.tail_modifyHead]
            exact ⟨length, tail⟩
          · exact ⟨length, tail⟩

/-- An identifier is found just when a rule was offered under it. -/
theorem setActive_found (calls : List RuleCall) (id : RuleId) (active : Bool) :
    ((after calls).setActive id active).1 = true ↔ RuleCall.offered id calls ≠ [] := by
  have length := (under_after calls id).1
  rw [setActive, contains_iff, ne_eq, ne_eq, ← List.length_eq_zero_iff, length, List.length_eq_zero_iff]

/-- After toggling an identifier, its first rule is as it was set and the others are as they were offered. -/
theorem countP_toggled (calls : List RuleCall) (id : RuleId) (active : Bool)
    (found : ((after calls).setActive id active).1 = true) :
    ((after calls).setActive id active).2.activeRules.countP (·.id = id) =
      active.toNat + (RuleCall.offered id calls).tail.countP (·.active) := by
  rw [countP_activeRules, under_setActive, if_pos rfl, ← (under_after calls id).2]
  cases rules : (after calls).under id with
  | nil =>
      rw [setActive, contains_iff] at found
      exact absurd rules found
  | cons first rest =>
      rw [List.modifyHead_cons, List.countP_cons, List.tail_cons, Nat.add_comm]
      cases active <;> rfl

theorem nodup_activeRules {list : RuleList} (single : ∀ id, (list.under id).length ≤ 1) :
    (list.activeRules.map (·.id)).Nodup := by
  refine List.nodup_iff_count_le_one.mpr fun id => ?_
  calc (list.activeRules.map (·.id)).count id
      = list.activeRules.countP (·.id = id) := by
        rw [List.count_eq_countP, List.countP_map]
        exact List.countP_congr fun rule _ => by simp
    _ = (list.under id).countP (·.active) := list.countP_activeRules id
    _ ≤ (list.under id).length := List.countP_le_length
    _ ≤ 1 := single id

end RuleList

theorem RuleRow.id_of_rule? {row : RuleRow} {rule : Rule} (loaded : row.rule?.value = some rule) :
    rule.id.uuid.bytes = row.id := by
  unfold rule? at loaded
  split at loaded
  case h_1 id _ parsed _ =>
    obtain rfl := Option.some.inj loaded
    unfold Uuid.ofBytes? at parsed
    split at parsed
    · exact congrArg Uuid.bytes (Option.some.inj parsed).symm
    · cases parsed
  case h_2 => cases loaded

namespace RuleTable

theorem ids_rulesOf (rows : List RuleRow) :
    ((rulesOf rows).value.map (·.id.uuid.bytes)).Sublist (rows.map (·.id)) := by
  induction rows with
  | nil => exact .slnil
  | cons row rest ih =>
      rw [rulesOf, List.map_append, List.map_cons]
      cases loaded : row.rule?.value with
      | none => exact ih.cons _
      | some rule =>
          rw [Option.toList_some, List.map_singleton, RuleRow.id_of_rule? loaded]
          exact ih.cons_cons _

/-- No two active rules of a table have the same identifier. -/
theorem nodup_activeRules (calls : List RuleCall) : ((after calls).activeRules.value.map (·.id)).Nodup := by
  have active : (((after calls).rows.filter (·.active == 1)).map (·.id)).Nodup :=
    (nodup_after calls).sublist (List.filter_sublist.map fun row : RuleRow => row.id)
  have ordered : ((sortBy RuleRow.precedes ((after calls).rows.filter (·.active == 1))).map (·.id)).Nodup :=
    ((sortBy_perm _).map fun row : RuleRow => row.id).nodup_iff.mpr active
  have bytes := ordered.sublist (ids_rulesOf _)
  rw [← Function.comp_def (fun id : RuleId => id.uuid.bytes), ← List.map_map] at bytes
  exact bytes.of_map _

end RuleTable

namespace RuleList

/-- Toggling finds each identifier that was offered and decides the first of its rules, so it decides the identifier
unless that was offered again. Without such offers no active identifier is listed twice, and in a table none ever is. -/
theorem toggling_decides_first_offer (calls : List RuleCall) (id : RuleId) (active : Bool) :
    let toggled := (after calls).setActive id active
    let listed := toggled.2.activeRules.countP (·.id = id)
    let offered := RuleCall.offered id calls
    (toggled.1 = true ↔ offered ≠ []) ∧
    (toggled.1 = true → listed = active.toNat + offered.tail.countP (·.active)) ∧
    (toggled.1 = true → offered.length ≤ 1 → listed = active.toNat) ∧
    ((∀ other, (RuleCall.offered other calls).length ≤ 1) → ((after calls).activeRules.map (·.id)).Nodup) ∧
    ((RuleTable.after calls).activeRules.value.map (·.id)).Nodup := by
  intro toggled listed offered
  have count : toggled.1 = true → listed = active.toNat + offered.tail.countP (·.active) := countP_toggled calls id active
  refine ⟨setActive_found calls id active, count, fun found once => ?_, fun single => ?_,
    RuleTable.nodup_activeRules calls⟩
  · have alone : offered.tail = [] := List.eq_nil_of_length_eq_zero (by rw [List.length_tail]; omega)
    rw [count found, alone, List.countP_nil, Nat.add_zero]
  · exact nodup_activeRules fun other => (under_after calls other).1.trans_le (single other)

def hallRules : List RuleCall :=
  [.insert (RuleTable.lampRule 2 "lamp off" .epoch), .insert (RuleTable.lampRule 1 "lamp on" .epoch)]

theorem toggling_decides_first_offer_of_hall :
    let id := (RuleTable.lampRule 2 "" .epoch).id
    let toggled := (after hallRules).setActive id false
    toggled.1 = true ∧ toggled.2.activeRules.countP (·.id = id) = 0 ∧ toggled.2.activeRules.length = 1 ∧
      ((after hallRules).activeRules.map (·.id)).Nodup := by
  intro id toggled
  have single (other : RuleId) : (RuleCall.offered other hallRules).length ≤ 1 := by
    by_cases first : (RuleTable.lampRule 2 "lamp off" .epoch).id = other
    · rw [← first]
      decide +kernel
    · have skipped : RuleCall.offered? other (.insert (RuleTable.lampRule 2 "lamp off" .epoch)) = none := by
        rw [RuleCall.offered?, RuleCall.offers, beq_false_of_ne first, Bool.and_false]
        rfl
      rw [RuleCall.offered, hallRules, List.filterMap_cons_none skipped]
      exact (List.length_filterMap_le _ _).trans (le_refl 1)
  obtain ⟨found, -, alone, nodup, -⟩ := toggling_decides_first_offer hallRules id false
  have known : toggled.1 = true := found.mpr (by decide +kernel)
  exact ⟨known, alone known (single id), by decide +kernel, nodup single⟩

/-- A second rule under an identifier is taken, stays active when the identifier is switched off, and stands beside the
first when it is switched on. A table refuses it. -/
theorem second_offer_escapes_toggling :
    let id := (RuleTable.lampRule 2 "" .epoch).id
    let calls := [RuleCall.insert (RuleTable.lampRule 2 "lamp off" .epoch), .insert (RuleTable.lampRule 2 "again" .epoch)]
    let off := (after calls).setActive id false
    let on := (after calls).setActive id true
    off.1 = true ∧ off.2.activeRules.map (·.id) = [id] ∧
      on.1 = true ∧ on.2.activeRules.map (·.id) = [id, id] ∧
      (after calls).activeRules.map (·.id) = [id, id] ∧ (RuleTable.after calls).count = 1 := by
  decide +kernel

end RuleList

end DeviceRules
