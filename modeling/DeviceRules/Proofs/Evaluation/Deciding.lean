import DeviceRules.Proofs.Evaluation.Reached
import DeviceRules.Proofs.Telemetry.Newest

/-! The samples that decide a leaf about telemetry. The log gives a threshold the greatest recording of its window, and
a change the two greatest. So a leaf depends on what was recorded inside its window and on nothing else that was
recorded, and on the order of recording only among samples of the same time. -/
namespace DeviceRules

namespace Condition

variable {log other : TelemetryLog} {moment : Moment} {device : DeviceId} {dataType : String} {since : Instant}

theorem judgeThreshold_iff {c : ThresholdCondition} : judgeThreshold c (log.recent device dataType since 1) = true ↔
    ∃ newest, IsGreatest (log.window device dataType since) newest ∧
      c.comparison.holds newest.sample.value c.threshold = true := by
  rw [TelemetryLog.recent_eq]
  cases order : log.newestFirst device dataType since with
  | nil =>
      refine iff_of_false Bool.false_ne_true ?_
      rintro ⟨newest, greatest, _⟩
      exact TelemetryLog.notMem_window order newest greatest.1
  | cons first rest =>
      simp only [TelemetryLog.isGreatest_window order, exists_eq_left]
      rfl

theorem judgeChange_iff {c : ChangeCondition} : judgeChange c (log.recent device dataType since 2) = true ↔
    ∃ newest previous, IsGreatest (log.window device dataType since) newest ∧
      IsGreatest (log.window device dataType since \ {newest}) previous ∧
      c.direction.holds (newest.sample.value - previous.sample.value) c.least = true := by
  rw [TelemetryLog.recent_eq]
  cases order : log.newestFirst device dataType since with
  | nil =>
      refine iff_of_false Bool.false_ne_true ?_
      rintro ⟨newest, _, greatest, _⟩
      exact TelemetryLog.notMem_window order newest greatest.1
  | cons first rest =>
      simp only [TelemetryLog.isGreatest_window order]
      cases rest with
      | nil =>
          -- The newest sample is the only one, so that none is left to compare it with.
          refine iff_of_false Bool.false_ne_true ?_
          rintro ⟨newest, previous, rfl, ⟨⟨inside, other⟩, _⟩, _⟩
          rw [← TelemetryLog.mem_newestFirst, order] at inside
          exact other (List.mem_singleton.mp inside)
      | cons second others =>
          simp only [exists_and_left, exists_eq_left, TelemetryLog.isGreatest_others order]
          rfl

/-- The telemetry that a leaf asks for is all that it takes from a log. -/
theorem evaluate_of_same_recent {c : Condition} {limit : Nat}
    (asks : c.query? moment (some device) = some (.samples device dataType since limit))
    (same : other.recent device dataType since limit = log.recent device dataType since limit) :
    c.evaluate other.telemetry moment (some device) = c.evaluate log.telemetry moment (some device) := by
  cases c with
  | threshold c | change c =>
      cases asks
      simp only [evaluate, judgeSamples, TelemetryLog.telemetry, same]
  | status expected => simp [query?] at asks
  | time c | composite connective children | unsupported kind defect => contradiction

/-- Whatever was recorded in the log, a threshold and a change have a value. A threshold is true just when there is a
greatest recording in its window, by time and then by place, and the value of that compares as it is asked for; a change
is true just when there is a second greatest as well and the values of the two differ as it is asked for. Logs with the
same samples in the window of a leaf, in the same order or at different times, give the same evaluation of it. -/
theorem newest_in_window_decide (log : TelemetryLog) (moment : Moment) (device : DeviceId) :
    (∀ c : ThresholdCondition, let window := log.window device c.dataType (moment.now.windowStart c.windowMinutes)
      ∃ b, ((threshold c).evaluate log.telemetry moment (some device)).value = .ok b ∧
        (b = true ↔ ∃ newest, IsGreatest window newest ∧
          c.comparison.holds newest.sample.value c.threshold = true)) ∧
    (∀ c : ChangeCondition, let window := log.window device c.dataType (moment.now.windowStart c.windowMinutes)
      ∃ b, ((change c).evaluate log.telemetry moment (some device)).value = .ok b ∧
        (b = true ↔ ∃ newest previous, IsGreatest window newest ∧ IsGreatest (window \ {newest}) previous ∧
          c.direction.holds (newest.sample.value - previous.sample.value) c.least = true)) ∧
    ∀ (c : Condition) (dataType : String) (since : Instant) (limit : Nat),
      c.query? moment (some device) = some (.samples device dataType since limit) → ∀ other : TelemetryLog,
        (other.within device dataType since = log.within device dataType since ∨
          (other.within device dataType since).Perm (log.within device dataType since) ∧
            ((log.within device dataType since).map (·.timestamp)).Nodup) →
        c.evaluate other.telemetry moment (some device) = c.evaluate log.telemetry moment (some device) := by
  refine ⟨fun c => ⟨_, rfl, judgeThreshold_iff⟩, fun c => ⟨_, rfl, judgeChange_iff⟩, ?_⟩
  intro c dataType since limit asks other alike
  refine evaluate_of_same_recent asks ?_
  rcases alike with same | ⟨perm, distinct⟩
  · exact TelemetryLog.recent_congr same limit
  · exact TelemetryLog.recent_of_perm perm distinct limit

/-- Light in a hall that fell and was recorded late, between an older sample and one of the attic. -/
def dimmedHall : TelemetryLog :=
  let light (device : String) (value : Float) (second : Int) : Sample :=
    ⟨⟨device⟩, "lux", value, none, (Instant.of? second 0).getD .epoch⟩
  ⟨[light "hall" 20 1900, light "hall" 90 1000, light "attic" 40 1950, light "hall" 30 1500], []⟩

/-- The fall is found however the two samples are recorded, and when the others are not. -/
theorem newest_in_window_decide_of_dimmed_hall :
    let moment : Moment := ⟨(Instant.of? 2000 0).getD .epoch, ⟨2000⟩, none⟩
    let hall : DeviceId := ⟨"hall"⟩
    let fall : ChangeCondition := ⟨"lux", .decrease, 10, 10⟩
    let since := moment.now.windowStart 10
    let found := dimmedHall.within hall "lux" since
    (change fall).query? moment (some hall) = some (.samples hall "lux" since 2) ∧
      found.length = 2 ∧ (found.map (·.timestamp)).Nodup ∧
      ((change fall).evaluate dimmedHall.telemetry moment (some hall)).value = .ok true ∧
      (∃ newest previous, IsGreatest (dimmedHall.window hall "lux" since) newest ∧
        IsGreatest (dimmedHall.window hall "lux" since \ {newest}) previous ∧
        fall.direction.holds (newest.sample.value - previous.sample.value) fall.least = true) ∧
      ∀ samples : List Sample, samples.Perm found →
        ((change fall).evaluate (TelemetryLog.mk samples []).telemetry moment (some hall)).value = .ok true := by
  intro moment hall fall since found
  have asks : (change fall).query? moment (some hall) = some (.samples hall "lux" since 2) := rfl
  have distinct : (found.map (·.timestamp)).Nodup := by decide +kernel
  have value : ((change fall).evaluate dimmedHall.telemetry moment (some hall)).value = .ok true :=
    congrArg Except.ok (by decide +kernel)
  obtain ⟨-, changes, alike⟩ := newest_in_window_decide dimmedHall moment hall
  obtain ⟨b, same, deciding⟩ := changes fall
  obtain rfl : b = true := Except.ok.inj (same.symm.trans value)
  refine ⟨asks, by decide +kernel, distinct, value, deciding.mp rfl, fun samples perm => ?_⟩
  have inside : found.filter (TelemetryLog.isRecent hall "lux" since) = found :=
    List.filter_eq_self.mpr fun s member => (List.mem_filter.mp member).2
  have kept : ((TelemetryLog.mk samples []).within hall "lux" since).Perm found := inside ▸ perm.filter _
  rw [alike (change fall) "lux" since 2 asks _ (.inr ⟨kept, distinct⟩), value]

end Condition

end DeviceRules
