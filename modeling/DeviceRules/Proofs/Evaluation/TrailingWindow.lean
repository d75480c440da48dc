import DeviceRules.Proofs.Decimal.Sign
import DeviceRules.Proofs.Evaluation.Reached
import DeviceRules.Proofs.Telemetry.Newest

/-! The windows of the leaves of a condition. A window begins some minutes before now, and that is all there is to it:
samples before its start never matter, while samples of the time after now are in it and come before all others. A
negative window begins now, so it is empty only as long as there are no such samples and none of just now. -/
namespace DeviceRules

/-- A negative window begins where a window of no length does. -/
theorem Instant.windowStart_of_neg (now : Instant) {minutes : Float} (negative : minutes < 0) :
    now.windowStart minutes = now :=
  now.windowStart_of_not_pos (Double.not_pos_mul negative (by decide))

namespace TelemetryLog

variable {log : TelemetryLog} {device : DeviceId} {dataType : String} {since : Instant} {limit : Nat}

theorem mem_recent {s : Sample} (answered : s ∈ log.recent device dataType since limit) :
    s ∈ log.samples ∧ s.device = device ∧ s.dataType = dataType ∧ since ≤ s.timestamp := by
  rw [recent_eq_within] at answered
  have inside := List.mem_reverse.mp ((sortBy_perm _).mem_iff.mp (List.mem_of_mem_take answered))
  obtain ⟨recorded, recent⟩ := List.mem_filter.mp inside
  exact ⟨recorded, isRecent_iff.mp recent⟩

/-- No sample that is not older than the start is later than the first of the answer. -/
theorem exists_first_of_mem {s : Sample} (recorded : s ∈ log.samples) (own : s.device = device)
    (kind : s.dataType = dataType) (young : since ≤ s.timestamp) (positive : 0 < limit) :
    ∃ first, (log.recent device dataType since limit).head? = some first ∧ s.timestamp ≤ first.timestamp := by
  obtain ⟨place, found⟩ := List.mem_iff_getElem?.mp recorded
  have inside : (⟨place, s⟩ : Recording) ∈ log.window device dataType since := ⟨found, own, kind, young⟩
  cases order : log.newestFirst device dataType since with
  | nil => exact absurd inside (notMem_window order _)
  | cons first rest =>
      have greatest := (isGreatest_window order first).mpr rfl
      refine ⟨first.sample, ?_, (greatest.2 inside).1⟩
      obtain ⟨n, rfl⟩ := Nat.exists_eq_succ_of_ne_zero (Nat.pos_iff_ne_zero.mp positive)
      rw [recent_eq, order, List.take_succ_cons, List.map_cons, List.head?_cons]

end TelemetryLog

namespace Condition

variable {log : TelemetryLog} {moment : Moment} {device : Option DeviceId}

/-- The data type that a leaf asks for and the minutes of its window. -/
def window? : Condition → Option (String × Float)
  | threshold c => some (c.dataType, c.windowMinutes)
  | change c => some (c.dataType, c.windowMinutes)
  | time _ | status _ | composite _ _ | unsupported _ _ => none

/-- A question about samples is one about the window of a leaf. -/
theorem window_of_query {c : Condition} {d : DeviceId} {dataType : String} {since : Instant} {limit : Nat}
    (asks : c.query? moment device = some (.samples d dataType since limit)) : device = some d ∧ 0 < limit ∧
      ∃ minutes, c.window? = some (dataType, minutes) ∧ since = moment.now.windowStart minutes := by
  cases c with
  | threshold c | change c =>
      obtain ⟨own, rfl, same⟩ := Option.map_eq_some_iff.mp asks
      cases same
      exact ⟨rfl, by decide, _, rfl, rfl⟩
  | status expected => simp [query?] at asks
  | time c | composite connective children | unsupported kind defect => contradiction

/-- Of samples that are all older than now, a negative window has none. -/
theorem evaluate_of_negative_window {c : Condition} {d : DeviceId} {dataType : String} {minutes : Float}
    (window : c.window? = some (dataType, minutes)) (negative : minutes < 0)
    (older : ∀ s ∈ log.samples, s.device = d → s.dataType = dataType → ¬moment.now ≤ s.timestamp) :
    (c.evaluate log.telemetry moment (some d)).value = .ok false := by
  have none (limit : Nat) : log.recent d dataType (moment.now.windowStart minutes) limit = [] := by
    rw [moment.now.windowStart_of_neg negative, List.eq_nil_iff_forall_not_mem]
    intro s answered
    obtain ⟨recorded, own, kind, young⟩ := TelemetryLog.mem_recent answered
    exact older s recorded own kind young
  cases c with
  | threshold c | change c =>
      cases window
      simp only [evaluate, judgeSamples, TelemetryLog.telemetry, none]
      rfl
  | status expected | time c | composite connective children | unsupported kind defect => contradiction

/-- Whatever the log has recorded, each sample that decides in an evaluation is of the device and data type of a leaf
and not older than the start of its window, which is not after now. No sample is too late: the first that decides is as
late as any that was recorded. So histories with the same samples from the starts of the windows on evaluate alike, and
a leaf with a negative window is false when no sample is as late as now. -/
theorem windows_have_starts_only (log : TelemetryLog) (moment : Moment) (device : Option DeviceId) (c : Condition) :
    (∀ d dataType since limit, .samples d dataType since limit ∈ (c.evaluate log.telemetry moment device).queries →
      (∃ spot ∈ c.spots device, spot.device = some d ∧
        ∃ minutes, spot.leaf.window? = some (dataType, minutes) ∧ since = moment.now.windowStart minutes) ∧
      since ≤ moment.now ∧
      (∀ s ∈ log.recent d dataType since limit,
        s ∈ log.samples ∧ s.device = d ∧ s.dataType = dataType ∧ since ≤ s.timestamp) ∧
      ∀ s ∈ log.samples, s.device = d → s.dataType = dataType → since ≤ s.timestamp →
        ∃ first, (log.recent d dataType since limit).head? = some first ∧ s.timestamp ≤ first.timestamp) ∧
    (∀ other : TelemetryLog, other.statuses = log.statuses →
      (∀ d dataType since limit, .samples d dataType since limit ∈ (c.evaluate log.telemetry moment device).queries →
        other.within d dataType since = log.within d dataType since) →
      c.evaluate other.telemetry moment device = c.evaluate log.telemetry moment device) ∧
    ∀ d dataType minutes, c.window? = some (dataType, minutes) → minutes < 0 →
      (∀ s ∈ log.samples, s.device = d → s.dataType = dataType → ¬moment.now ≤ s.timestamp) →
      (c.evaluate log.telemetry moment (some d)).value = .ok false := by
  refine ⟨fun d dataType since limit asked => ?_, fun other statuses same => ?_,
    fun d dataType minutes => evaluate_of_negative_window⟩
  · obtain ⟨spot, member, own⟩ := exists_spot_of_asked c device _ asked
    obtain ⟨named, positive, minutes, window, rfl⟩ := window_of_query own
    exact ⟨⟨spot, member, named, minutes, window, rfl⟩, moment.now.windowStart_le minutes,
      fun s => TelemetryLog.mem_recent,
      fun s recorded own kind young => TelemetryLog.exists_first_of_mem recorded own kind young positive⟩
  · refine evaluate_of_same_answers c device fun query asked => ?_
    cases query with
    | samples d dataType since limit =>
        exact congrArg Except.ok (TelemetryLog.recent_congr (same d dataType since limit asked) limit)
    | status d =>
        refine congrArg Except.ok ?_
        rw [TelemetryLog.status?, TelemetryLog.status?, statuses]

def hallLight (value : Float) (second : Int) : Sample :=
  ⟨⟨"hall"⟩, "lux", value, none, (Instant.of? second 0).getD .epoch⟩

/-- A condition on the last five minutes of a hall, with one sample before them and one after now. -/
theorem windows_have_starts_only_of_hall :
    let moment : Moment := ⟨(Instant.of? 2000 0).getD .epoch, ⟨2000⟩, none⟩
    let hall : DeviceId := ⟨"hall"⟩
    let dark (minutes : Float) : Condition := threshold ⟨"lux", .lt, 40, minutes⟩
    let log : TelemetryLog := ⟨[hallLight 90 1000, hallLight 50 1900, hallLight 30 2030], []⟩
    let since := moment.now.windowStart 5
    .samples hall "lux" since 1 ∈ ((dark 5).evaluate log.telemetry moment (some hall)).queries ∧
      (∃ first, (log.recent hall "lux" since 1).head? = some first ∧
        (hallLight 30 2030).timestamp ≤ first.timestamp) ∧
      (dark 5).evaluate (TelemetryLog.mk [hallLight 50 1900, hallLight 30 2030] []).telemetry moment (some hall) =
        (dark 5).evaluate log.telemetry moment (some hall) ∧
      (-5 : Float) < 0 ∧
      ((dark (-5)).evaluate (TelemetryLog.mk [hallLight 30 1900] []).telemetry moment (some hall)).value =
        .ok false := by
  intro moment hall dark log since
  have questions : ((dark 5).evaluate log.telemetry moment (some hall)).queries = [.samples hall "lux" since 1] := rfl
  have old : TelemetryLog.isRecent hall "lux" since (hallLight 90 1000) = false := by decide +kernel
  have young : since ≤ (hallLight 30 2030).timestamp := by decide +kernel
  obtain ⟨asked, agree, -⟩ := windows_have_starts_only log moment (some hall) (dark 5)
  obtain ⟨-, -, -, late⟩ := asked hall "lux" since 1 (questions ▸ List.mem_singleton_self _)
  have negative : (-5 : Float) < 0 := by decide
  have empty := (windows_have_starts_only (TelemetryLog.mk [hallLight 30 1900] []) moment (some hall) (dark (-5))).2.2
  refine ⟨questions ▸ List.mem_singleton_self _, late (hallLight 30 2030) (by simp [log]) rfl rfl young,
    agree (TelemetryLog.mk _ []) rfl ?_, negative, empty hall "lux" (-5) rfl negative ?_⟩
  · intro d dataType earliest limit member
    rw [questions, List.mem_singleton] at member
    cases member
    exact (List.filter_cons_of_neg (by simp [old])).symm
  · intro s recorded _ _
    rw [List.mem_singleton.mp recorded]
    decide

/-- A sample of half a minute after now decides, and so does one of just now in a negative window. -/
theorem late_samples_and_negative_windows_count :
    let moment : Moment := ⟨(Instant.of? 2000 0).getD .epoch, ⟨2000⟩, none⟩
    let dark (minutes : Float) : Condition := threshold ⟨"lux", .lt, 40, minutes⟩
    let value (minutes : Float) (log : TelemetryLog) :=
      ((dark minutes).evaluate log.telemetry moment (some ⟨"hall"⟩)).value
    (¬(hallLight 30 2030).timestamp ≤ moment.now ∧ value 5 .empty = .ok false ∧
      value 5 (TelemetryLog.empty.record (hallLight 30 2030)) = .ok true) ∧
    (-3 : Float) < 0 ∧ value (-3) (TelemetryLog.empty.record (hallLight 30 2000)) = .ok true := by
  intro moment dark value
  refine ⟨⟨by decide, rfl, ?_⟩, by decide, ?_⟩
  · exact congrArg Except.ok (by decide +kernel)
  · exact congrArg Except.ok (by decide +kernel)

end Condition

end DeviceRules
