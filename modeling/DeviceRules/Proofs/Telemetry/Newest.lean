import DeviceRules.Memory
import DeviceRules.Proofs.Sorting
import DeviceRules.Proofs.Time.Order
import Mathlib.Data.List.Nodup
import Mathlib.Order.Bounds.Basic

/-! The newest samples of a window, told by what was recorded and not by how the log finds them. A recording is a sample
with its place; recordings are ordered by the time of the sample and, within one time, by their place. The log answers
with the greatest recordings of the window, the greatest first. -/
namespace DeviceRules

structure Recording where
  place : Nat
  sample : Sample

namespace Recording

/-- Earlier samples come first, and of those with the same time the one that was recorded first. -/
instance : LE Recording := ⟨fun a b =>
  a.sample.timestamp ≤ b.sample.timestamp ∧ (a.sample.timestamp = b.sample.timestamp → a.place ≤ b.place)⟩

variable {a b c : Recording}

theorem le_iff : a ≤ b ↔
    a.sample.timestamp ≤ b.sample.timestamp ∧ (a.sample.timestamp = b.sample.timestamp → a.place ≤ b.place) := Iff.rfl

protected theorem le_refl (a : Recording) : a ≤ a := ⟨Instant.le_refl _, fun _ => Nat.le_refl _⟩

protected theorem le_trans (first : a ≤ b) (second : b ≤ c) : a ≤ c := by
  refine ⟨Instant.le_trans first.1 second.1, fun same => ?_⟩
  have upper : b.sample.timestamp ≤ a.sample.timestamp := same ▸ second.1
  have between : a.sample.timestamp = b.sample.timestamp := Instant.le_antisymm first.1 upper
  exact Nat.le_trans (first.2 between) (second.2 (between.symm.trans same))

theorem place_eq (first : a ≤ b) (second : b ≤ a) : a.place = b.place := by
  have same : a.sample.timestamp = b.sample.timestamp := Instant.le_antisymm first.1 second.1
  exact Nat.le_antisymm (first.2 same) (second.2 same.symm)

/-- The greatest of some recordings is the first of them when they are listed from the greatest down. -/
theorem isGreatest_iff {set : Set Recording} {first : Recording} {rest : List Recording}
    (members : ∀ r, r ∈ first :: rest ↔ r ∈ set) (falling : (first :: rest).Pairwise fun a b => b ≤ a)
    (antisymm : ∀ a ∈ set, ∀ b ∈ set, a ≤ b → b ≤ a → a = b) (r : Recording) : IsGreatest set r ↔ r = first := by
  have above : ∀ r ∈ set, r ≤ first := by
    intro r inside
    rcases List.mem_cons.mp ((members r).mpr inside) with rfl | later
    · exact Recording.le_refl r
    · exact (List.pairwise_cons.mp falling).1 r later
  have member : first ∈ set := (members first).mp List.mem_cons_self
  constructor
  · intro greatest
    exact antisymm r greatest.1 first member (above r greatest.1) (greatest.2 member)
  · rintro rfl
    exact ⟨member, above⟩

end Recording

namespace TelemetryLog

/-- What was recorded of a device and data type that is not older than `since`. -/
def window (log : TelemetryLog) (device : DeviceId) (dataType : String) (since : Instant) : Set Recording :=
  {r | log.samples[r.place]? = some r.sample ∧
    r.sample.device = device ∧ r.sample.dataType = dataType ∧ since ≤ r.sample.timestamp}

def recordings (log : TelemetryLog) : List Recording := log.samples.zipIdx.map fun (sample, place) => ⟨place, sample⟩

/-- The recordings of a window as the log sorts their samples. -/
def newestFirst (log : TelemetryLog) (device : DeviceId) (dataType : String) (since : Instant) : List Recording :=
  sortBy (fun a b => decide (b.sample.timestamp ≤ a.sample.timestamp))
    (log.recordings.reverse.filter fun r => isRecent device dataType since r.sample)

variable {log other : TelemetryLog} {device : DeviceId} {dataType : String} {since : Instant}

theorem map_sample_recordings (log : TelemetryLog) : log.recordings.map Recording.sample = log.samples := by
  rw [recordings, List.map_map]
  exact List.zipIdx_map_fst 0 log.samples

theorem mem_recordings {r : Recording} : r ∈ log.recordings ↔ log.samples[r.place]? = some r.sample := by
  simp only [recordings, List.mem_map, Prod.exists, List.mem_zipIdx_iff_getElem?]
  constructor
  · rintro ⟨sample, place, recorded, rfl⟩
    exact recorded
  · exact fun recorded => ⟨r.sample, r.place, recorded, rfl⟩

theorem recordings_pairwise (log : TelemetryLog) : log.recordings.Pairwise fun a b => a.place < b.place := by
  have places : log.recordings.map Recording.place = List.range' 0 log.samples.length := by
    rw [recordings, List.map_map]
    exact List.zipIdx_map_snd 0 log.samples
  rw [← List.pairwise_map (f := Recording.place) (R := (· < ·)), places]
  exact List.pairwise_lt_range'

theorem isRecent_iff {s : Sample} : isRecent device dataType since s = true ↔
    s.device = device ∧ s.dataType = dataType ∧ since ≤ s.timestamp := by
  simp only [isRecent, Bool.and_eq_true, beq_iff_eq, decide_eq_true_eq, and_assoc]

theorem recent_eq (log : TelemetryLog) (device : DeviceId) (dataType : String) (since : Instant) (limit : Nat) :
    log.recent device dataType since limit =
      ((log.newestFirst device dataType since).take limit).map Recording.sample := by
  have found : log.samples.reverse.filter (isRecent device dataType since) =
      (log.recordings.reverse.filter fun r => isRecent device dataType since r.sample).map Recording.sample := by
    rw [← map_sample_recordings, ← List.map_reverse, List.filter_map]
    rfl
  rw [recent, found, sortBy_map, List.map_take]
  rfl

theorem mem_newestFirst {r : Recording} :
    r ∈ log.newestFirst device dataType since ↔ r ∈ log.window device dataType since := by
  rw [newestFirst, (sortBy_perm _).mem_iff, List.mem_filter, List.mem_reverse, mem_recordings, isRecent_iff]
  rfl

theorem notMem_window (order : log.newestFirst device dataType since = []) (r : Recording) :
    r ∉ log.window device dataType since := by
  rw [← mem_newestFirst, order]
  exact List.not_mem_nil

theorem newestFirst_nodup (log : TelemetryLog) (device : DeviceId) (dataType : String) (since : Instant) :
    (log.newestFirst device dataType since).Nodup := by
  have distinct : log.recordings.Nodup := log.recordings_pairwise.imp fun before same => by
    rw [same] at before
    exact Nat.lt_irrefl _ before
  exact (sortBy_perm _).nodup_iff.mpr ((List.nodup_reverse.mpr distinct).filter _)

theorem newestFirst_pairwise (log : TelemetryLog) (device : DeviceId) (dataType : String) (since : Instant) :
    (log.newestFirst device dataType since).Pairwise fun a b => b ≤ a := by
  refine sortBy_pairwise (r := fun a b => b ≤ a) (fun a b c first second => Recording.le_trans second first) ?_
  refine ((List.pairwise_reverse.mpr log.recordings_pairwise).filter _).imp fun {a b} later => ?_
  simp only [decide_eq_true_eq]
  split
  · rename_i older
    exact ⟨older, fun _ => Nat.le_of_lt later⟩
  · rename_i newer
    refine ⟨(Instant.le_total _ _).resolve_right newer, fun same => ?_⟩
    exact absurd (same ▸ Instant.le_refl _) newer

theorem window_antisymm : ∀ a ∈ log.window device dataType since, ∀ b ∈ log.window device dataType since,
    a ≤ b → b ≤ a → a = b := by
  intro a recorded b alsoRecorded first second
  obtain ⟨place, sample⟩ := a
  obtain rfl : place = b.place := Recording.place_eq first second
  obtain rfl : sample = b.sample := Option.some.inj (recorded.1.symm.trans alsoRecorded.1)
  rfl

theorem isGreatest_window {first : Recording} {rest : List Recording}
    (order : log.newestFirst device dataType since = first :: rest) (r : Recording) :
    IsGreatest (log.window device dataType since) r ↔ r = first := by
  have falling := order ▸ log.newestFirst_pairwise device dataType since
  refine Recording.isGreatest_iff (fun r => ?_) falling window_antisymm r
  rw [← order, mem_newestFirst]

theorem isGreatest_others {first second : Recording} {rest : List Recording}
    (order : log.newestFirst device dataType since = first :: second :: rest) (r : Recording) :
    IsGreatest (log.window device dataType since \ {first}) r ↔ r = second := by
  have falling := order ▸ log.newestFirst_pairwise device dataType since
  have distinct := order ▸ log.newestFirst_nodup device dataType since
  refine Recording.isGreatest_iff (fun r => ?_) (List.pairwise_cons.mp falling).2
    (fun a left b right => window_antisymm a left.1 b right.1) r
  have members : r ∈ first :: second :: rest ↔ r ∈ log.window device dataType since := order ▸ mem_newestFirst
  rw [Set.mem_sdiff, ← members, Set.mem_singleton_iff, List.mem_cons (a := r) (b := first)]
  constructor
  · intro inside
    exact ⟨.inr inside, fun same => (List.nodup_cons.mp distinct).1 (same ▸ inside)⟩
  · rintro ⟨same | inside, other⟩
    · exact absurd same other
    · exact inside

def within (log : TelemetryLog) (device : DeviceId) (dataType : String) (since : Instant) : List Sample :=
  log.samples.filter (isRecent device dataType since)

theorem recent_eq_within (log : TelemetryLog) (device : DeviceId) (dataType : String) (since : Instant) (limit : Nat) :
    log.recent device dataType since limit =
      (sortBy (fun a b => decide (b.timestamp ≤ a.timestamp))
        (log.within device dataType since).reverse).take limit := by
  rw [recent, within, List.filter_reverse]

/-- What lies outside a window has no part in the answer. -/
theorem recent_congr (same : other.within device dataType since = log.within device dataType since) (limit : Nat) :
    other.recent device dataType since limit = log.recent device dataType since limit := by
  rw [recent_eq_within, recent_eq_within, same]

/-- Samples of different times are answered with in one order, however they were recorded. -/
theorem recent_of_perm (same : (other.within device dataType since).Perm (log.within device dataType since))
    (distinct : ((log.within device dataType since).map (·.timestamp)).Nodup) (limit : Nat) :
    other.recent device dataType since limit = log.recent device dataType since limit := by
  have placed (samples : List Sample) : samples.Pairwise fun a b =>
      if decide (b.timestamp ≤ a.timestamp) = true then b.timestamp ≤ a.timestamp else a.timestamp ≤ b.timestamp := by
    refine List.pairwise_of_forall fun a b => ?_
    simp only [decide_eq_true_eq]
    split
    · assumption
    · rename_i newer
      exact (Instant.le_total _ _).resolve_right newer
  have perm := (List.reverse_perm _).trans (same.trans (List.reverse_perm _).symm)
  rw [recent_eq_within, recent_eq_within]
  refine congrArg (List.take limit) (sortBy_eq_of_perm (r := fun a b => b.timestamp ≤ a.timestamp)
    (fun a b c first second => Instant.le_trans second first) perm ?_ (placed _) (placed _))
  intro a mine b theirs first second
  have inside {s : Sample} (member : s ∈ (other.within device dataType since).reverse) :
      s ∈ log.within device dataType since := same.mem_iff.mp (List.mem_reverse.mp member)
  exact List.inj_on_of_nodup_map distinct (inside mine) (inside theirs) (Instant.le_antisymm second first)

end TelemetryLog

end DeviceRules
