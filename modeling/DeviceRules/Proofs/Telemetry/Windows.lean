import DeviceRules.Database.Telemetry
import DeviceRules.Memory
import DeviceRules.Proofs.Sorting
import DeviceRules.Proofs.Time.Order

/-! What a window that reaches further back adds to an answer. Both stores give the newest samples first, so older ones
come after those of the narrower window and never in front of them, also among samples of the same time. -/
namespace DeviceRules

/-- Every answer has at most as many samples as were asked for, and the one about the samples since `earlier` goes on
where the one about the samples since `since` ends. -/
structure Telemetry.AddsOlder (telemetry : Telemetry) (since earlier : Instant) : Prop where
  limited {device dataType start limit found} :
    telemetry.samples device dataType start limit = .ok found → found.length ≤ limit
  extended {device dataType limit found more} : telemetry.samples device dataType since limit = .ok found →
    telemetry.samples device dataType earlier limit = .ok more → found <+: more

theorem TelemetryLog.addsOlder (log : TelemetryLog) {since earlier : Instant} (older : earlier ≤ since) :
    log.telemetry.AddsOlder since earlier where
  limited answer := Except.ok.inj answer ▸ List.length_take_le _ _
  extended {device dataType limit found more} narrow wide := by
    rw [← Except.ok.inj narrow, ← Except.ok.inj wide]
    refine take_sortBy_isPrefix (fun s recent => ?_) (fun s t recent old new => ?_) limit
    · simp only [isRecent, Bool.and_eq_true, decide_eq_true_eq] at recent ⊢
      exact ⟨recent.1, Instant.le_trans older recent.2⟩
    · simp only [isRecent, Bool.and_eq_true, decide_eq_true_eq] at recent old
      have before : ¬since ≤ t.timestamp := by simpa [isRecent, old.1] using new
      have later : t.timestamp ≤ s.timestamp :=
        Instant.le_trans ((Instant.le_total since t.timestamp).resolve_left before) recent.2
      exact ⟨decide_eq_true later, decide_eq_false fun back => before (Instant.le_trans recent.2 back)⟩

section Traversal

variable {ε α β : Type} {f : α → Except ε β} {items : List α} {results : List β}

theorem length_of_mapM (done : items.mapM f = .ok results) : results.length = items.length := by
  induction items generalizing results with
  | nil =>
      cases done
      rfl
  | cons a rest ih =>
      rw [List.mapM_cons] at done
      cases first : f a with
      | error e =>
          rw [first] at done
          cases done
      | ok b =>
          cases others : rest.mapM f with
          | error e =>
              rw [first, others] at done
              cases done
          | ok found =>
              rw [first, others] at done
              cases done
              exact congrArg (· + 1) (ih others)

theorem prefix_of_mapM {others : List α} {more : List β} (first : items <+: others)
    (done : items.mapM f = .ok results) (doneAll : others.mapM f = .ok more) : results <+: more := by
  obtain ⟨rest, rfl⟩ := first
  rw [List.mapM_append, done] at doneAll
  cases after : rest.mapM f with
  | error e =>
      rw [after] at doneAll
      cases doneAll
  | ok added =>
      rw [after] at doneAll
      cases doneAll
      exact List.prefix_append _ _

end Traversal

theorem TelemetryTables.addsOlder (tables : TelemetryTables) {since earlier : Instant}
    (older : earlier.millis ≤ since.millis) : tables.telemetry.AddsOlder since earlier where
  limited answer := length_of_mapM answer ▸ List.length_take_le _ _
  extended {device dataType limit found more} narrow wide := by
    refine prefix_of_mapM (take_sortBy_isPrefix (fun row recent => ?_) (fun a b recent old new => ?_) limit)
      narrow wide
    · simp only [isRecent, Bool.and_eq_true, decide_eq_true_eq] at recent ⊢
      exact ⟨recent.1, Int.le_trans older recent.2⟩
    · simp only [isRecent, Bool.and_eq_true, decide_eq_true_eq] at recent old
      have before : ¬since.millis ≤ b.millis := by simpa [isRecent, old.1] using new
      simp only [SampleRow.precedes, Bool.or_eq_true, Bool.or_eq_false_iff, Bool.and_eq_true, Bool.and_eq_false_iff,
        decide_eq_true_eq, decide_eq_false_iff_not]
      omega

end DeviceRules
