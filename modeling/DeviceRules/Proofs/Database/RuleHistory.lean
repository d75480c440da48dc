import DeviceRules.Database.Rules
import DeviceRules.Proofs.Sorting
import DeviceRules.Proofs.Time.TextOrder
import Mathlib.Data.List.Induction
import Mathlib.Data.List.Nodup

/-! What a table of rules holds after any calls. Each rule that was inserted under a new identifier is one row, with the
flag that was set for it last, and the active ones are listed in the order of their creation times to the microsecond
and then of their identifiers. The order rests on the texts of creation times being ordered as the times are. -/
namespace DeviceRules

inductive RuleCall
  | insert (rule : Rule)
  | setActive (id : RuleId) (active : Bool)

namespace RuleCall

def offers (id : RuleId) : RuleCall → Bool
  | insert rule => !Text.isBlankText rule.name && rule.id == id
  | setActive _ _ => false

/-- The table after a call. A call that fails leaves it as it was. -/
def apply (table : RuleTable) : RuleCall → RuleTable
  | insert rule =>
      match table.insert rule with
      | .ok next => next
      | .error _ => table
  | setActive id active => (table.setActive id active).2

/-- The flag of a rule after some calls: the one that was set last, or else the one that the rule came with. -/
def latestFlag (id : RuleId) (flag : Bool) : List RuleCall → Bool
  | [] => flag
  | insert _ :: later => latestFlag id flag later
  | setActive other active :: later => latestFlag id (if other = id then active else flag) later

theorem latestFlag_append (id : RuleId) (flag : Bool) (calls later : List RuleCall) :
    latestFlag id flag (calls ++ later) = latestFlag id (latestFlag id flag calls) later := by
  induction calls generalizing flag with
  | nil => rfl
  | cons call rest ih => cases call <;> exact ih _

end RuleCall

/-- An insertion that was accepted, with the calls after it. -/
structure Admission where
  rule : Rule
  later : List RuleCall

namespace Admission

def flag (admission : Admission) : Bool :=
  RuleCall.latestFlag admission.rule.id admission.rule.active admission.later

def now (admission : Admission) : Rule := { admission.rule with active := admission.flag }

/-- The insertions that are accepted among some calls: those of rules with a name whose identifier nothing before has
taken. -/
def among (before : List RuleCall) : List RuleCall → List Admission
  | [] => []
  | .insert rule :: later =>
      if Text.isBlankText rule.name || before.any (·.offers rule.id) then among (before ++ [.insert rule]) later
      else ⟨rule, later⟩ :: among (before ++ [.insert rule]) later
  | .setActive id active :: later => among (before ++ [.setActive id active]) later

end Admission

theorem RuleId.bytes_beq (a b : RuleId) : (a.uuid.bytes == b.uuid.bytes) = (a == b) := by
  have same : a.uuid.bytes = b.uuid.bytes ↔ a = b := by
    constructor
    · intro bytes
      obtain ⟨⟨first, length⟩⟩ := a
      obtain rfl : first = b.uuid.bytes := bytes
      rfl
    · rintro rfl
      rfl
  rw [Bool.eq_iff_iff, beq_iff_eq, beq_iff_eq, same]

theorem Uuid.ofBytes?_bytes (uuid : Uuid) : ofBytes? uuid.bytes = some uuid := dif_pos uuid.length_eq

theorem bytes_lt_of {a b : List UInt8} (apart : a ≠ b) (notBehind : ¬b < a) : a < b :=
  Decidable.byContradiction fun notBefore => apart (List.le_antisymm notBehind notBefore)

namespace RuleTable

def after (calls : List RuleCall) : RuleTable := calls.foldl RuleCall.apply empty

theorem after_append (calls : List RuleCall) (call : RuleCall) :
    after (calls ++ [call]) = call.apply (after calls) := by
  rw [after, List.foldl_append]
  rfl

theorem insert_eq (table : RuleTable) (rule : Rule) :
    table.insert rule =
      if Text.isBlankText rule.name then .error .blankName
      else if table.contains rule.id.uuid.bytes then
        .error (.outage (.refused "UNIQUE constraint failed: automation_rules.id"))
      else .ok ⟨table.rows ++ [.ofRule rule]⟩ := by
  unfold insert Rule.validate insertRow
  cases Text.isBlankText rule.name
  · cases taken : table.contains rule.id.uuid.bytes <;> simp [RuleRow.ofRule, taken] <;> rfl
  · rfl

/-- An insertion adds a row at the end, or none. -/
theorem apply_insert (table : RuleTable) (rule : Rule) :
    (RuleCall.insert rule).apply table =
      if Text.isBlankText rule.name || table.contains rule.id.uuid.bytes then table
      else ⟨table.rows ++ [.ofRule rule]⟩ := by
  rw [RuleCall.apply, insert_eq]
  cases Text.isBlankText rule.name <;> cases table.contains rule.id.uuid.bytes <;> rfl

def switched (id : RuleId) (active : Bool) (row : RuleRow) : RuleRow :=
  if row.id == id.uuid.bytes then { row with active := if active then 1 else 0 } else row

theorem apply_setActive (table : RuleTable) (id : RuleId) (active : Bool) :
    (RuleCall.setActive id active).apply table = ⟨table.rows.map (switched id active)⟩ := rfl

theorem id_switched (id : RuleId) (active : Bool) (row : RuleRow) : (switched id active row).id = row.id := by
  unfold switched
  split <;> rfl

/-- A call makes an identifier known by offering a rule under it. -/
theorem contains_apply (table : RuleTable) (call : RuleCall) (id : RuleId) :
    (call.apply table).contains id.uuid.bytes = (table.contains id.uuid.bytes || call.offers id) := by
  cases call with
  | insert rule =>
      rw [apply_insert, RuleCall.offers]
      cases Text.isBlankText rule.name with
      | true => simp
      | false =>
          cases taken : table.contains rule.id.uuid.bytes with
          | true =>
              by_cases same : rule.id = id
              · simp [← same, taken]
              · simp [same]
          | false => simp [contains, RuleRow.ofRule, RuleId.bytes_beq]
  | setActive other active =>
      rw [apply_setActive, RuleCall.offers, Bool.or_false, contains, contains, List.any_map]
      refine List.any_congr rfl fun row => ?_
      rw [Function.comp_apply, id_switched]

theorem contains_after (calls : List RuleCall) (id : RuleId) :
    (after calls).contains id.uuid.bytes = calls.any (·.offers id) := by
  induction calls using List.reverseRecOn with
  | nil => rfl
  | append_singleton calls call ih =>
      rw [after_append, contains_apply, ih, List.any_append, List.any_cons, List.any_nil, Bool.or_false]

theorem notMem_ids_of_contains {table : RuleTable} {id : List UInt8} (new : table.contains id = false) :
    id ∉ table.rows.map (·.id) := by
  intro member
  obtain ⟨row, inside, rfl⟩ := List.mem_map.mp member
  have found : table.contains row.id = true := List.any_eq_true.mpr ⟨row, inside, beq_self_eq_true _⟩
  rw [new] at found
  cases found

/-- No two rows have the same identifier. -/
theorem nodup_apply {table : RuleTable} (nodup : (table.rows.map (·.id)).Nodup) (call : RuleCall) :
    ((call.apply table).rows.map (·.id)).Nodup := by
  cases call with
  | insert rule =>
      rw [apply_insert]
      split
      · exact nodup
      · rename_i new
        have unknown : table.contains rule.id.uuid.bytes = false := by simp_all
        rw [List.map_append, List.nodup_append]
        refine ⟨nodup, List.nodup_singleton _, fun a member b last same => ?_⟩
        obtain rfl : b = rule.id.uuid.bytes := List.mem_singleton.mp last
        exact notMem_ids_of_contains unknown (same ▸ member)
  | setActive id active =>
      rw [apply_setActive, List.map_map]
      have ids : (fun row : RuleRow => row.id) ∘ switched id active = fun row => row.id :=
        funext fun row => id_switched id active row
      rwa [ids]

theorem nodup_after (calls : List RuleCall) : ((after calls).rows.map (·.id)).Nodup := by
  induction calls using List.reverseRecOn with
  | nil => exact List.nodup_nil
  | append_singleton calls call ih => exact after_append calls call ▸ nodup_apply ih call

end RuleTable

namespace Admission

def followedBy (admission : Admission) (call : RuleCall) : Admission :=
  { admission with later := admission.later ++ [call] }

theorem among_append (before calls : List RuleCall) (call : RuleCall) :
    among before (calls ++ [call]) = (among before calls).map (·.followedBy call) ++ among (before ++ calls) [call] := by
  induction calls generalizing before with
  | nil => rw [List.nil_append, among, List.map_nil, List.nil_append, List.append_nil]
  | cons first rest ih =>
      have next : before ++ [first] ++ rest = before ++ first :: rest := by simp
      cases first with
      | insert rule =>
          simp only [List.cons_append, among]
          split
          · rw [ih, next]
          · rw [ih, next]
            rfl
      | setActive id active =>
          simp only [List.cons_append, among]
          rw [ih, next]

theorem mem_among {admission : Admission} {before calls : List RuleCall} (member : admission ∈ among before calls) :
    .insert admission.rule ∈ calls := by
  induction calls generalizing before with
  | nil => cases member
  | cons call rest ih =>
      cases call with
      | insert rule =>
          simp only [among] at member
          split at member
          · exact .tail _ (ih member)
          · rcases List.mem_cons.mp member with rfl | member
            · exact .head _
            · exact .tail _ (ih member)
      | setActive id active => exact .tail _ (ih member)

def row (admission : Admission) : RuleRow := .ofRule admission.now

theorem row_followedBy_insert (admission : Admission) (rule : Rule) :
    (admission.followedBy (.insert rule)).row = admission.row := by
  simp only [row, now, flag, followedBy, RuleCall.latestFlag_append, RuleCall.latestFlag]

theorem row_followedBy_setActive (admission : Admission) (id : RuleId) (active : Bool) :
    (admission.followedBy (.setActive id active)).row = RuleTable.switched id active admission.row := by
  have mine : (admission.row.id == id.uuid.bytes) = (admission.rule.id == id) := RuleId.bytes_beq _ _
  rw [RuleTable.switched, mine]
  simp only [row, now, flag, followedBy, RuleCall.latestFlag_append, RuleCall.latestFlag, beq_iff_eq]
  by_cases same : admission.rule.id = id
  · rw [if_pos same, if_pos same.symm]
    rfl
  · rw [if_neg same, if_neg (Ne.symm same)]

end Admission

namespace RuleTable

/-- A table holds a row for each accepted insertion, in their order, with the flags that later calls have set. -/
theorem rows_after (calls : List RuleCall) : (after calls).rows = (Admission.among [] calls).map Admission.row := by
  -- One more call is one more call after each accepted insertion, and at most one insertion more.
  induction calls using List.reverseRecOn with
  | nil => rfl
  | append_singleton calls call ih =>
      rw [after_append, Admission.among_append, List.nil_append, List.map_append, List.map_map]
      cases call with
      | insert rule =>
          have kept : Admission.row ∘ (·.followedBy (.insert rule)) = Admission.row :=
            funext fun admission => admission.row_followedBy_insert rule
          rw [apply_insert, contains_after, kept, ← ih, Admission.among]
          split
          · rw [Admission.among, List.map_nil, List.append_nil]
          · rfl
      | setActive id active =>
          have set : Admission.row ∘ (·.followedBy (.setActive id active)) = switched id active ∘ Admission.row :=
            funext fun admission => admission.row_followedBy_setActive id active
          rw [apply_setActive, ih, set, List.map_map, Admission.among, Admission.among, List.map_nil, List.append_nil]

end RuleTable

/-- The rule as it comes back from its row. What is kept as text is read again. -/
def Rule.reloaded (rule : Rule) : Rule :=
  { rule with
    trigger := .ofText rule.trigger.toJson.toText
    action := .ofText rule.action.toJson.toText
    createdAt := rule.createdAt.atMicro }

/-- Rules are listed by creation time and then by the bytes of their identifiers. -/
def Rule.ListedBefore (a b : Rule) : Prop :=
  a.createdAt ≤ b.createdAt ∧ (a.createdAt = b.createdAt → a.id.uuid.bytes < b.id.uuid.bytes)

theorem Rule.ListedBefore.trans {a b c : Rule} (first : a.ListedBefore b) (second : b.ListedBefore c) :
    a.ListedBefore c := by
  refine ⟨Instant.le_trans first.1 second.1, fun same => ?_⟩
  -- All three have the same creation time, since the second is no later than the third and no earlier than the first.
  have firstSame : a.createdAt = b.createdAt := Instant.le_antisymm first.1 (same ▸ second.1)
  exact List.lt_trans (first.2 firstSame) (second.2 (firstSame ▸ same))

namespace RuleRow

theorem rule?_ofRule {rule : Rule} (inYears : 0 ≤ rule.createdAt.year ∧ rule.createdAt.year ≤ 9999) :
    (ofRule rule).rule?.value = some rule.reloaded := by
  have active : ((if rule.active then 1 else 0 : Int) != 0) = rule.active := by
    cases rule.active <;> rfl
  simp only [rule?, ofRule, Uuid.ofBytes?_bytes, creation, Instant.ofText?_microText _ inYears, active, Rule.reloaded]

/-- The order of rows is the order in which their rules are listed. -/
theorem precedes_ofRule {a b : Rule} (yearsA : 0 ≤ a.createdAt.year ∧ a.createdAt.year ≤ 9999)
    (yearsB : 0 ≤ b.createdAt.year ∧ b.createdAt.year ≤ 9999) :
    (ofRule a).precedes (ofRule b) = true ↔ ¬b.createdAt.atMicro ≤ a.createdAt.atMicro ∨
      a.createdAt.atMicro = b.createdAt.atMicro ∧ ¬b.id.uuid.bytes < a.id.uuid.bytes := by
  simp only [precedes, Bool.or_eq_true, Bool.and_eq_true, decide_eq_true_eq, beq_iff_eq, Bool.not_eq_true',
    decide_eq_false_iff_not]
  change a.createdAt.microText < b.createdAt.microText ∨ a.createdAt.microText = b.createdAt.microText ∧
    ¬b.id.uuid.bytes < a.id.uuid.bytes ↔ _
  rw [Instant.microText_lt_iff yearsA yearsB, Instant.microText_inj yearsA yearsB]

/-- Of two rules with different identifiers, the one whose row goes first is listed before the other. -/
theorem listedBefore_of_precedes {a b : Rule} (yearsA : 0 ≤ a.createdAt.year ∧ a.createdAt.year ≤ 9999)
    (yearsB : 0 ≤ b.createdAt.year ∧ b.createdAt.year ≤ 9999) (first : (ofRule a).precedes (ofRule b) = true)
    (apart : a.id.uuid.bytes ≠ b.id.uuid.bytes) : a.reloaded.ListedBefore b.reloaded := by
  rcases (precedes_ofRule yearsA yearsB).mp first with earlier | ⟨same, notBehind⟩
  · have notLater := (Instant.le_total b.createdAt.atMicro a.createdAt.atMicro).resolve_left earlier
    refine ⟨notLater, fun same => absurd ?_ earlier⟩
    change a.createdAt.atMicro = b.createdAt.atMicro at same
    rw [same]
    exact Instant.le_refl _
  · refine ⟨?_, fun _ => bytes_lt_of apart notBehind⟩
    change a.createdAt.atMicro ≤ b.createdAt.atMicro
    rw [same]
    exact Instant.le_refl _

theorem precedes_total {a b : Rule} (yearsA : 0 ≤ a.createdAt.year ∧ a.createdAt.year ≤ 9999)
    (yearsB : 0 ≤ b.createdAt.year ∧ b.createdAt.year ≤ 9999) (behind : (ofRule a).precedes (ofRule b) = false) :
    (ofRule b).precedes (ofRule a) = true := by
  rw [← Bool.not_eq_true, precedes_ofRule yearsA yearsB, not_or, not_not, not_and, not_not] at behind
  obtain ⟨notBefore, sameTime⟩ := behind
  rw [precedes_ofRule yearsB yearsA]
  by_cases notAfter : a.createdAt.atMicro ≤ b.createdAt.atMicro
  · have same := Instant.le_antisymm notAfter notBefore
    exact .inr ⟨same.symm, List.lt_asymm (sameTime same)⟩
  · exact .inl notAfter

end RuleRow

/-- The rules of some rows that were all written by the table. -/
theorem RuleTable.rulesOf_rows {admissions : List Admission}
    (inYears : ∀ a ∈ admissions, 0 ≤ a.rule.createdAt.year ∧ a.rule.createdAt.year ≤ 9999) :
    (rulesOf (admissions.map Admission.row)).value = admissions.map fun a => a.now.reloaded := by
  induction admissions with
  | nil => rfl
  | cons a rest ih =>
      obtain ⟨first, others⟩ := List.forall_mem_cons.mp inYears
      have loaded : a.row.rule?.value = some a.now.reloaded := RuleRow.rule?_ofRule first
      simp only [List.map_cons, rulesOf, ih others, loaded, Option.toList_some, List.singleton_append]

namespace RuleTable

theorem active_rows (admissions : List Admission) :
    (admissions.map Admission.row).filter (·.active == 1) = (admissions.filter Admission.flag).map Admission.row := by
  have shown (a : Admission) : (a.row.active == 1) = a.flag := by
    change ((if a.flag then 1 else 0 : Int) == 1) = a.flag
    cases a.flag <;> rfl
  rw [List.filter_map]
  exact congrArg (List.map _) (List.filter_congr fun a _ => shown a)

/-- Of two rows of a table the one that goes first holds the rule that is listed before the other. -/
theorem place_after {calls : List RuleCall}
    (inYears : ∀ rule, .insert rule ∈ calls → 0 ≤ rule.createdAt.year ∧ rule.createdAt.year ≤ 9999) :
    (Admission.among [] calls).Pairwise fun a b =>
      if a.row.precedes b.row then a.now.reloaded.ListedBefore b.now.reloaded
      else b.now.reloaded.ListedBefore a.now.reloaded := by
  have ids := nodup_after calls
  rw [rows_after, List.map_map] at ids
  refine (List.pairwise_map.mp ids).imp_of_mem fun {a b} memberA memberB apart => ?_
  have yearsA := inYears a.rule (Admission.mem_among memberA)
  have yearsB := inYears b.rule (Admission.mem_among memberB)
  cases first : a.row.precedes b.row with
  | true =>
      rw [if_pos rfl]
      exact RuleRow.listedBefore_of_precedes yearsA yearsB first apart
  | false =>
      rw [if_neg Bool.false_ne_true]
      exact RuleRow.listedBefore_of_precedes yearsB yearsA (RuleRow.precedes_total yearsA yearsB first) (Ne.symm apart)

/-- Listing the active rules puts those of the accepted insertions in order. -/
theorem activeRules_after {calls : List RuleCall}
    (inYears : ∀ rule, .insert rule ∈ calls → 0 ≤ rule.createdAt.year ∧ rule.createdAt.year ≤ 9999) :
    ∃ listed : List Admission, listed.Perm ((Admission.among [] calls).filter Admission.flag) ∧
      (after calls).activeRules.value = listed.map (fun a => a.now.reloaded) ∧
      (after calls).activeRules.value.Pairwise Rule.ListedBefore := by
  let listed := sortBy (fun a b => a.row.precedes b.row) ((Admission.among [] calls).filter Admission.flag)
  have perm : listed.Perm ((Admission.among [] calls).filter Admission.flag) := sortBy_perm _
  have years : ∀ a ∈ listed, 0 ≤ a.rule.createdAt.year ∧ a.rule.createdAt.year ≤ 9999 := by
    intro a member
    exact inYears a.rule (Admission.mem_among (List.mem_filter.mp (perm.mem_iff.mp member)).1)
  have found : (after calls).activeRules.value = listed.map fun a => a.now.reloaded := by
    rw [activeRules, rows_after, active_rows, sortBy_map, rulesOf_rows years]
  refine ⟨listed, perm, found, ?_⟩
  rw [found, List.pairwise_map]
  exact sortBy_pairwise (fun _ _ _ first second => first.trans second) ((place_after inYears).filter _)

end RuleTable

def Admission.Stored (calls : List RuleCall) (id : RuleId) : Prop := ∃ a ∈ among [] calls, a.rule.id = id

namespace RuleTable

theorem contains_iff_stored (calls : List RuleCall) (id : RuleId) :
    (after calls).contains id.uuid.bytes = true ↔ Admission.Stored calls id := by
  have mine (a : Admission) : (a.row.id == id.uuid.bytes) = (a.rule.id == id) := RuleId.bytes_beq _ _
  simp only [contains, rows_after, List.any_map, List.any_eq_true, Function.comp_apply, mine, beq_iff_eq, Admission.Stored]

theorem insert_eq_error (table : RuleTable) (rule : Rule) :
    (∃ fault, table.insert rule = .error fault) ↔
      Text.isBlankText rule.name = true ∨ table.contains rule.id.uuid.bytes = true := by
  rw [insert_eq]
  cases Text.isBlankText rule.name <;> cases table.contains rule.id.uuid.bytes <;> simp

/-- Setting a flag changes one row at most, and in that row nothing else. -/
theorem setActive_split {table : RuleTable} (nodup : (table.rows.map (·.id)).Nodup) {id : RuleId}
    (known : table.contains id.uuid.bytes = true) (active : Bool) :
    ∃ front row back, table.rows = front ++ row :: back ∧ row.id = id.uuid.bytes ∧
      (table.setActive id active).2.rows = front ++ { row with active := if active then 1 else 0 } :: back := by
  obtain ⟨row, member, mine⟩ := List.any_eq_true.mp known
  obtain ⟨front, back, split⟩ := List.append_of_mem member
  have id_row : row.id = id.uuid.bytes := beq_iff_eq.mp mine
  have untouched (others : List RuleRow) (apart : ∀ other ∈ others, other.id ≠ row.id) :
      others.map (switched id active) = others := by
    refine (List.map_congr_left fun other inside => ?_).trans (List.map_id' others)
    rw [switched, if_neg (by simpa [id_row] using apart other inside)]
  -- The other rows have other identifiers, since no two rows share one.
  rw [split, List.map_append, List.map_cons, List.nodup_append, List.nodup_cons] at nodup
  obtain ⟨-, ⟨notBehind, -⟩, notAhead⟩ := nodup
  refine ⟨front, row, back, split, id_row, ?_⟩
  change table.rows.map (switched id active) = _
  rw [split, List.map_append, List.map_cons, untouched front ?_, untouched back ?_, switched, if_pos mine]
  · intro other inside same
    exact notBehind (same ▸ List.mem_map_of_mem inside)
  · intro other inside
    exact notAhead _ (List.mem_map_of_mem inside) _ List.mem_cons_self

theorem setActive_of_unknown {table : RuleTable} {id : RuleId} (unknown : table.contains id.uuid.bytes = false)
    (active : Bool) : (table.setActive id active).2 = table := by
  have untouched : table.rows.map (switched id active) = table.rows := by
    refine (List.map_congr_left fun row member => ?_).trans (List.map_id' table.rows)
    have other := List.any_eq_false.mp unknown row member
    rw [switched, if_neg other]
  exact congrArg RuleTable.mk untouched

/-- What a table answers after some calls, and what one more call does to it. -/
structure Records (table : RuleTable) (calls : List RuleCall) : Prop where
  /-- Each accepted rule that is active is listed once. -/
  active : ∃ listed : List Admission, listed.Perm ((Admission.among [] calls).filter Admission.flag) ∧
    table.activeRules.value = listed.map fun a => a.now.reloaded
  ordered : table.activeRules.value.Pairwise Rule.ListedBefore
  counted : table.count = (Admission.among [] calls).length
  refused : ∀ rule, (∃ fault, table.insert rule = .error fault) ↔
    Text.isBlankText rule.name = true ∨ Admission.Stored calls rule.id
  kept : ∀ rule fault, table.insert rule = .error fault → after (calls ++ [.insert rule]) = table
  found : ∀ id active, (table.setActive id active).1 = true ↔ Admission.Stored calls id
  /-- One row has the identifier, and its flag is all that changes. -/
  switched : ∀ id active, Admission.Stored calls id → ∃ front row back, table.rows = front ++ row :: back ∧
    row.id = id.uuid.bytes ∧
    (table.setActive id active).2.rows = front ++ { row with active := if active then 1 else 0 } :: back
  missed : ∀ id active, ¬Admission.Stored calls id → (table.setActive id active).2 = table

/-- After any calls on an empty table, the rules that were accepted are counted, the active ones among them are listed
in order, an insertion is refused for a blank name or a stored identifier only, and a flag is set for one rule only. -/
theorem records_every_history (calls : List RuleCall)
    (inYears : ∀ rule, .insert rule ∈ calls → 0 ≤ rule.createdAt.year ∧ rule.createdAt.year ≤ 9999) :
    (after calls).Records calls := by
  obtain ⟨listed, perm, answer, ordered⟩ := activeRules_after inYears
  have stored := contains_iff_stored calls
  refine ⟨⟨listed, perm, answer⟩, ordered, ?_, fun rule => ?_, fun rule fault refused => ?_, fun id _ => stored id,
    fun id active known => ?_, fun id active unknown => ?_⟩
  · rw [count, rows_after, List.length_map]
  · rw [insert_eq_error, stored]
  · rw [after_append, RuleCall.apply, refused]
  · exact setActive_split (nodup_after calls) ((stored id).mpr known) active
  · exact setActive_of_unknown (Bool.eq_false_iff.mpr fun known => unknown ((stored id).mp known)) active

def lampRule (byte : UInt8) (name : String) (created : Instant) : Rule where
  id := ⟨⟨List.replicate 16 byte, List.length_replicate⟩⟩
  name := name
  description := none
  triggerDevice := ⟨"hall"⟩
  trigger := ⟨none, .unsupported none .noCondition⟩
  actionDevice := ⟨"lamp"⟩
  action := .unsupported none .noAction
  active := true
  owner := ⟨.zero⟩
  createdAt := created

/-- A leap second, and the second after it. -/
def leapInstant : Instant := ⟨1483228799, 1000000700, by decide, by decide, by decide⟩

def newYear : Instant := ⟨1483228800, 999, by decide, by decide, by decide⟩

/-- Two rules stay, created in one order and inserted in the other. One is refused for its name and one for its
identifier. -/
def lampCalls : List RuleCall :=
  [.insert (lampRule 2 "lamp off" newYear), .insert (lampRule 1 "lamp on" leapInstant), .insert (lampRule 3 " " newYear),
    .insert (lampRule 2 "again" leapInstant), .setActive (lampRule 1 "" newYear).id false,
    .setActive (lampRule 1 "" newYear).id true]

theorem records_every_history_of_lamp :
    (∀ rule, .insert rule ∈ lampCalls → 0 ≤ rule.createdAt.year ∧ rule.createdAt.year ≤ 9999) ∧
      (after lampCalls).Records lampCalls ∧ (after lampCalls).count = 2 := by
  have inYears : ∀ rule, .insert rule ∈ lampCalls → 0 ≤ rule.createdAt.year ∧ rule.createdAt.year ≤ 9999 := by
    intro rule member
    have created : rule.createdAt = leapInstant ∨ rule.createdAt = newYear := by
      simp only [lampCalls, List.mem_cons, RuleCall.insert.injEq, reduceCtorEq, List.not_mem_nil, or_false] at member
      rcases member with rfl | rfl | rfl | rfl
      · exact .inr rfl
      · exact .inl rfl
      · exact .inr rfl
      · exact .inl rfl
    rcases created with same | same
    · rw [same]
      decide
    · rw [same]
      decide
  have records := records_every_history lampCalls inYears
  exact ⟨inYears, records, records.counted.trans (by decide +kernel)⟩

end RuleTable

end DeviceRules
