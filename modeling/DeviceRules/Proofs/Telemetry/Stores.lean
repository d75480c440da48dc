import DeviceRules.Database.Telemetry
import DeviceRules.Memory
import DeviceRules.Proofs.Decimal.Double
import DeviceRules.Proofs.Sorting
import Mathlib.Data.List.Nodup

/-! The tables of samples answer as the log in memory does. Both take the samples in the order of recording; the log
turns them round and sorts them by their times, while the rows are sorted by their times and numbers. The tables know
whole milliseconds only, so the log is given those. -/
namespace DeviceRules

def Instant.atMillis? (t : Instant) : Option Instant := ofMillis? t.millis

namespace Sample

def atMillis? (s : Sample) : Option Sample := s.timestamp.atMillis?.map fun t => { s with timestamp := t }

/-- The sample with no sign on a zero. -/
def unsigned (s : Sample) : Sample := { s with value := if s.value == 0 then 0 else s.value }

end Sample

theorem Instant.le_iff_of_ofMillis {m n : Int} {first second : Instant} (earlier : ofMillis? m = some first)
    (later : ofMillis? n = some second) : first ≤ second ↔ m ≤ n := by
  simp only [ofMillis?, of?] at earlier later
  split at earlier
  · split at later
    · cases earlier
      cases later
      change (m / 1000 < n / 1000 ∨ (m / 1000 = n / 1000 ∧ (m % 1000).toNat * 1000000 ≤ (n % 1000).toNat * 1000000)) ↔ _
      omega
    · contradiction
  · contradiction

/-- A row holds a sample that was taken at a whole millisecond. -/
structure SampleRow.Holds (row : SampleRow) (s : Sample) : Prop where
  device : row.device = s.device.name
  dataType : row.dataType = s.dataType
  value : row.value = s.unsigned.value
  unit : row.unit = s.unit
  time : Instant.ofMillis? row.millis = some s.timestamp

namespace TelemetryTables

/-- The tables hold the samples of a log, in rows whose numbers grow. -/
structure Mirrors (tables : TelemetryTables) (log : TelemetryLog) : Prop where
  rows : List.Forall₂ SampleRow.Holds tables.samples log.samples
  growing : tables.samples.Pairwise fun a b => a.id < b.id
  counted : ∀ row ∈ tables.samples, row.id ≤ tables.samples.length

variable {tables : TelemetryTables} {log : TelemetryLog}

theorem mirrors_empty : empty.Mirrors .empty := ⟨.nil, .nil, by simp [empty]⟩

theorem Mirrors.record (mirrors : tables.Mirrors log) {s kept : Sample} (number : s.value.isNaN = false)
    (time : s.atMillis? = some kept) : ∃ next, tables.record s = .ok next ∧ next.Mirrors (log.record kept) := by
  obtain ⟨t, atMillis, rfl⟩ := Option.map_eq_some_iff.mp time
  have taken : ¬s.value.isNaN = true := by rw [number]; exact Bool.false_ne_true
  refine ⟨_, if_neg taken, ?_, ?_, ?_⟩
  · have holds : SampleRow.Holds ⟨tables.samples.length + 1, s.device.name, s.dataType, s.value + 0, s.unit,
        s.timestamp.millis⟩ { s with timestamp := t } :=
      ⟨rfl, rfl, Double.add_zero_of_number number, rfl, atMillis⟩
    exact List.rel_append mirrors.rows (.cons holds .nil)
  · refine List.pairwise_append.mpr ⟨mirrors.growing, List.pairwise_singleton _ _, fun row member last same => ?_⟩
    rw [List.mem_singleton.mp same]
    exact Nat.lt_succ_of_le (mirrors.counted row member)
  · intro row member
    simp only [List.length_append, List.length_singleton]
    rcases List.mem_append.mp member with old | new
    · exact Nat.le_succ_of_le (mirrors.counted row old)
    · rw [List.mem_singleton.mp new]

theorem Mirrors.recordAll {samples : List Sample} (numbers : ∀ s ∈ samples, s.value.isNaN = false) :
    ∀ {kept : List Sample} {tables : TelemetryTables} {log : TelemetryLog}, tables.Mirrors log →
      samples.mapM Sample.atMillis? = some kept →
      ∃ next, samples.foldlM TelemetryTables.record tables = .ok next ∧
        next.Mirrors (kept.foldl TelemetryLog.record log) := by
  induction samples with
  | nil =>
      intro kept tables log mirrors times
      cases times
      exact ⟨tables, rfl, mirrors⟩
  | cons s rest ih =>
      intro kept tables log mirrors times
      obtain ⟨number, numbers⟩ := List.forall_mem_cons.mp numbers
      simp only [List.mapM_cons, Option.bind_eq_bind, Option.bind_eq_some_iff, Option.pure_def] at times
      obtain ⟨first, time, others, times, same⟩ := times
      cases same
      obtain ⟨next, recorded, mirrors⟩ := mirrors.record number time
      obtain ⟨last, all, mirrors⟩ := ih numbers mirrors times
      refine ⟨last, ?_, mirrors⟩
      rw [List.foldlM_cons, recorded]
      exact all

theorem isRecent_eq {row : SampleRow} {s : Sample} (holds : row.Holds s) {since start : Instant}
    (window : since.atMillis? = some start) (device : DeviceId) (dataType : String) :
    isRecent device dataType since row = TelemetryLog.isRecent device dataType start s := by
  have named : (row.device == device.name) = (s.device == device) := by
    rw [holds.device, Bool.eq_iff_iff, beq_iff_eq, beq_iff_eq]
    exact ⟨fun same => congrArg DeviceId.mk same, congrArg DeviceId.name⟩
  have times := Instant.le_iff_of_ofMillis window holds.time
  simp only [isRecent, TelemetryLog.isRecent, named, holds.dataType, times]

/-- Rows in the order of their numbers are sorted as they are when turned round and sorted by their times alone. -/
theorem sortBy_precedes {rows : List SampleRow} (growing : rows.Pairwise fun a b => a.id < b.id) :
    sortBy SampleRow.precedes rows = sortBy (fun a b => decide (b.millis ≤ a.millis)) rows.reverse := by
  have unique : (rows.map (·.id)).Nodup := List.pairwise_map.mpr (growing.imp Nat.ne_of_lt)
  refine sortBy_eq_of_perm (r := fun a b => b.millis < a.millis ∨ (b.millis = a.millis ∧ b.id ≤ a.id))
    (fun a b c => by omega) (List.reverse_perm rows).symm ?_ ?_ ?_
  · intro a mine b theirs first second
    exact List.inj_on_of_nodup_map unique mine theirs (by omega)
  · refine List.Pairwise.imp (fun {a b} _ => ?_) growing
    simp only [SampleRow.precedes, Bool.or_eq_true, Bool.and_eq_true, decide_eq_true_eq]
    split <;> omega
  · refine List.Pairwise.imp (fun {a b} falling => ?_) (List.pairwise_reverse.mpr growing)
    simp only [decide_eq_true_eq]
    split <;> omega

theorem sample_of_holds {row : SampleRow} {s : Sample} (holds : row.Holds s) :
    SampleRow.sample row = .ok s.unsigned := by
  simp only [SampleRow.sample, holds.time, holds.device, holds.dataType, holds.value, holds.unit, Sample.unsigned]

theorem mapM_sample {rows : List SampleRow} {samples : List Sample}
    (held : List.Forall₂ SampleRow.Holds rows samples) :
    rows.mapM SampleRow.sample = .ok (samples.map Sample.unsigned) := by
  induction held with
  | nil => rfl
  | cons first _ ih =>
      rw [List.mapM_cons, sample_of_holds first, ih]
      rfl

theorem Mirrors.recent (mirrors : tables.Mirrors log) {since start : Instant}
    (window : since.atMillis? = some start) (device : DeviceId) (dataType : String) (limit : Nat) :
    tables.recent device dataType since limit = .ok ((log.recent device dataType start limit).map Sample.unsigned) := by
  have found : List.Forall₂ SampleRow.Holds (tables.samples.filter (isRecent device dataType since))
      (log.samples.filter (TelemetryLog.isRecent device dataType start)) := by
    refine List.rel_filter (fun row s holds => ?_) mirrors.rows
    exact Bool.eq_iff_iff.mp (isRecent_eq holds window device dataType)
  have sorted : sortBy SampleRow.precedes (tables.samples.filter (isRecent device dataType since)) =
      sortBy (fun a b => decide (b.millis ≤ a.millis)) (tables.samples.filter (isRecent device dataType since)).reverse :=
    sortBy_precedes (mirrors.growing.filter _)
  have compared : ∀ a b a' b', SampleRow.Holds a a' → SampleRow.Holds b b' →
      decide (b.millis ≤ a.millis) = decide (b'.timestamp ≤ a'.timestamp) := by
    intro a b a' b' first second
    simp only [Instant.le_iff_of_ofMillis second.time first.time]
  have answer := List.forall₂_take limit (sortBy_forall₂ compared (List.forall₂_reverse_iff.mpr found))
  simp only [TelemetryTables.recent, recentRows, sorted]
  rw [mapM_sample answer]
  simp only [TelemetryLog.recent, List.filter_reverse]

end TelemetryTables

/-- Whatever numbers are recorded, in whatever order and at whatever times, the tables take them all, and to every
question they give the answer of a log that was given the times and the start of the window in whole milliseconds: the
same samples in the same order, but for the sign of a zero. -/
theorem stores_agree {samples kept : List Sample} {since start : Instant}
    (numbers : ∀ s ∈ samples, s.value.isNaN = false) (times : samples.mapM Sample.atMillis? = some kept)
    (window : since.atMillis? = some start) :
    ∃ tables, samples.foldlM TelemetryTables.record .empty = .ok tables ∧
      ∀ (device : DeviceId) (dataType : String) (limit : Nat), ∃ found,
        (kept.foldl TelemetryLog.record .empty).telemetry.samples device dataType start limit = .ok found ∧
        tables.telemetry.samples device dataType since limit = .ok (found.map Sample.unsigned) := by
  obtain ⟨tables, recorded, mirrors⟩ := TelemetryTables.Mirrors.recordAll numbers TelemetryTables.mirrors_empty times
  refine ⟨tables, recorded, fun device dataType limit => ⟨_, rfl, ?_⟩⟩
  exact mirrors.recent window device dataType limit

def hallSample (value : Float) (second : Int) (nano : Nat) : Sample :=
  ⟨⟨"hall"⟩, "temperature", value, none, (Instant.of? second nano).getD .epoch⟩

/-- Two samples of one millisecond, the later one recorded first, and an older one recorded after them. -/
theorem stores_agree_of_hall :
    let samples := [hallSample 20 1 900000, hallSample (-0) 1 500000, hallSample 5 0 0]
    let kept := [hallSample 20 1 0, hallSample (-0) 1 0, hallSample 5 0 0]
    (∀ s ∈ samples, s.value.isNaN = false) ∧ samples.mapM Sample.atMillis? = some kept ∧
    Instant.epoch.atMillis? = some .epoch ∧
    ∃ tables, samples.foldlM TelemetryTables.record .empty = .ok tables ∧
      tables.telemetry.samples ⟨"hall"⟩ "temperature" .epoch 2 = .ok [hallSample 0 1 0, hallSample 20 1 0] := by
  intro samples kept
  have numbers : ∀ s ∈ samples, s.value.isNaN = false := by decide
  have times : samples.mapM Sample.atMillis? = some kept := rfl
  have window : Instant.epoch.atMillis? = some .epoch := rfl
  obtain ⟨tables, recorded, answers⟩ := stores_agree numbers times window
  obtain ⟨found, asked, answer⟩ := answers ⟨"hall"⟩ "temperature" 2
  cases asked
  exact ⟨numbers, times, window, tables, recorded, answer⟩

end DeviceRules
