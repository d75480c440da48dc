import DeviceRules.Proofs.Evaluation.Meaning
import DeviceRules.Proofs.Telemetry.Windows

/-! Windows that reach further back. A leaf that is true is true because of its newest samples, and these stay the
newest when older ones are admitted. Connectives are monotone, so what holds of the leaf holds of the whole condition. -/
namespace DeviceRules

/-- An operand that becomes true makes no value false. -/
theorem Connective.combine_mono (c : Connective) {earlier later : List Bool} {narrow wide : Bool}
    (kept : narrow = true → wide = true) (holds : c.combine (earlier ++ narrow :: later) = true) :
    c.combine (earlier ++ wide :: later) = true := by
  cases c with
  | and =>
      simp only [combine, List.all_append, List.all_cons, Bool.and_eq_true, id] at holds ⊢
      exact ⟨holds.1, kept holds.2.1, holds.2.2⟩
  | or =>
      simp only [combine, List.any_append, List.any_cons, Bool.or_eq_true, id] at holds ⊢
      exact holds.imp_right (Or.imp_left kept)

namespace Condition

/-- The window of one leaf, at any depth, is replaced by one that starts no later. -/
inductive Widens (now : Instant) : Condition → Condition → Prop
  | threshold {c : ThresholdCondition} {minutes : Float}
      (earlier : now.windowStart minutes ≤ now.windowStart c.windowMinutes) :
      Widens now (threshold c) (threshold { c with windowMinutes := minutes })
  | change {c : ChangeCondition} {minutes : Float}
      (earlier : now.windowStart minutes ≤ now.windowStart c.windowMinutes) :
      Widens now (change c) (change { c with windowMinutes := minutes })
  | inside {connective before after device node wide} (inner : Widens now node wide) :
      Widens now (composite connective (before ++ ⟨device, node⟩ :: after))
        (composite connective (before ++ ⟨device, wide⟩ :: after))

variable {telemetry : Telemetry} {moment : Moment}

theorem Widens.misconfiguration?_eq {narrow wide : Condition} (widens : Widens moment.now narrow wide)
    (device : Option DeviceId) : wide.misconfiguration? device = narrow.misconfiguration? device := by
  cases widens <;> rfl

/-- What a judgement finds in some samples, another one finds in as many of the newest when older samples are admitted. -/
theorem judged_of_addsOlder {since earlier : Instant} (reliable : telemetry.Reliable)
    (older : telemetry.AddsOlder since earlier) {judge judgeWide : List Sample → Bool} {limit : Nat}
    (kept : ∀ found more, found <+: more → more.length ≤ limit → judge found = true → judgeWide more = true)
    {device : Option DeviceId} {dataType : String}
    (holds : (device.bind fun d => (telemetry.samples d dataType since limit).toOption).any judge = true) :
    (device.bind fun d => (telemetry.samples d dataType earlier limit).toOption).any judgeWide = true := by
  cases device with
  | none => cases holds
  | some d =>
      cases narrow : telemetry.samples d dataType since limit with
      | error outage => exact absurd ⟨outage, narrow⟩ (reliable (.samples d dataType since limit))
      | ok found =>
          cases wide : telemetry.samples d dataType earlier limit with
          | error outage => exact absurd ⟨outage, wide⟩ (reliable (.samples d dataType earlier limit))
          | ok more =>
              simp only [Option.bind_some, narrow, wide, Except.toOption, Option.any_some] at holds ⊢
              exact kept found more (older.extended narrow wide) (older.limited wide) holds

/-- One sample decides about a threshold, the newest of the window. -/
theorem judgeThreshold_of_prefix {c : ThresholdCondition} {minutes : Float} {found more : List Sample}
    (first : found <+: more) (judged : judgeThreshold c found = true) :
    judgeThreshold { c with windowMinutes := minutes } more = true := by
  obtain ⟨rest, rfl⟩ := first
  cases found with
  | nil => cases judged
  | cons latest others => exact judged

/-- Two samples decide about a change, so an answer of no more than two cannot grow. -/
theorem judgeChange_of_prefix {c : ChangeCondition} {minutes : Float} {found more : List Sample}
    (first : found <+: more) (short : more.length ≤ 2) (judged : judgeChange c found = true) :
    judgeChange { c with windowMinutes := minutes } more = true := by
  unfold judgeChange at judged
  split at judged
  · obtain rfl := first.eq_of_length_le short
    exact judged
  · cases judged

theorem Widens.means_mono {narrow wide : Condition} (widens : Widens moment.now narrow wide)
    (reliable : telemetry.Reliable)
    (older : ∀ {minutes widened : Float}, moment.now.windowStart widened ≤ moment.now.windowStart minutes →
      telemetry.AddsOlder (moment.now.windowStart minutes) (moment.now.windowStart widened)) :
    ∀ device : Option DeviceId, narrow.means telemetry moment device = true →
      wide.means telemetry moment device = true := by
  induction widens with
  | threshold earlier =>
      intro device holds
      rw [means] at holds ⊢
      exact judged_of_addsOlder reliable (older earlier) (fun _ _ first _ => judgeThreshold_of_prefix first) holds
  | change earlier =>
      intro device holds
      rw [means] at holds ⊢
      exact judged_of_addsOlder reliable (older earlier) (fun _ _ => judgeChange_of_prefix) holds
  | inside inner ih =>
      intro device holds
      simp only [means, meanings_eq_map, List.map_append, List.map_cons] at holds ⊢
      exact Connective.combine_mono _ (ih _) holds

theorem Widens.evaluate_mono {narrow wide : Condition} (widens : Widens moment.now narrow wide)
    (reliable : telemetry.Reliable)
    (older : ∀ {minutes widened : Float}, moment.now.windowStart widened ≤ moment.now.windowStart minutes →
      telemetry.AddsOlder (moment.now.windowStart minutes) (moment.now.windowStart widened))
    (device : Option DeviceId) (holds : (narrow.evaluate telemetry moment device).value = .ok true) :
    (wide.evaluate telemetry moment device).value = .ok true := by
  rw [evaluate_value reliable, settledValue] at holds ⊢
  rw [widens.misconfiguration?_eq]
  cases wrong : narrow.misconfiguration? device with
  | some error => simp [wrong] at holds
  | none =>
      rw [wrong] at holds
      exact congrArg Except.ok (widens.means_mono reliable older device (Except.ok.inj holds))

/-- Whatever the telemetry is, a condition that is true stays true when the windows of some of its leaves, at any
depth, are replaced by windows that start no later. This holds of the log in memory, which answers every query, and of
the tables when they do. -/
theorem widening_keeps_true {moment : Moment} {device : Option DeviceId} {narrow wide : Condition}
    (widened : Relation.ReflTransGen (Widens moment.now) narrow wide) :
    (∀ log : TelemetryLog, (narrow.evaluate log.telemetry moment device).value = .ok true →
      (wide.evaluate log.telemetry moment device).value = .ok true) ∧
    ∀ tables : TelemetryTables, tables.telemetry.Reliable →
      (narrow.evaluate tables.telemetry moment device).value = .ok true →
      (wide.evaluate tables.telemetry moment device).value = .ok true := by
  refine ⟨fun log holds => ?_, fun tables reliable holds => ?_⟩
  · induction widened with
    | refl => exact holds
    | tail _ last ih => exact last.evaluate_mono log.telemetry_reliable (fun earlier => log.addsOlder earlier) device ih
  · induction widened with
    | refl => exact holds
    | tail _ last ih =>
        refine last.evaluate_mono reliable (fun earlier => tables.addsOlder ?_) device ih
        exact Instant.millis_windowStart_le earlier

/-- A hall that has grown dark, with one more sample than the narrow windows let in. -/
def darkeningHall : TelemetryLog :=
  [(70, 1000), (60, 1500), (30, 1900)].foldl
    (fun log (value, second) =>
      log.record ⟨⟨"hall"⟩, "lux", value, none, (Instant.of? second 0).getD .epoch⟩) .empty

/-- Both leaves are given wider windows, one after the other. -/
theorem widening_keeps_true_of_hall :
    let moment : Moment := ⟨(Instant.of? 2000 0).getD .epoch, ⟨2000⟩, none⟩
    let dark (minutes : Float) : Addressed Condition := ⟨some ⟨"hall"⟩, threshold ⟨"lux", .lt, 40, minutes⟩⟩
    let darker (minutes : Float) : Addressed Condition := ⟨some ⟨"hall"⟩, change ⟨"lux", .decrease, 10, minutes⟩⟩
    let narrow := composite .and [dark 5, darker 10]
    let wide := composite .and [dark 60, darker 600]
    Relation.ReflTransGen (Widens moment.now) narrow wide ∧
      (narrow.evaluate darkeningHall.telemetry moment none).value = .ok true ∧
      (wide.evaluate darkeningHall.telemetry moment none).value = .ok true := by
  intro moment dark darker narrow wide
  have first : Widens moment.now narrow (composite .and [dark 60, darker 10]) :=
    @Widens.inside _ .and [] [darker 10] _ _ _ (.threshold (by decide +kernel))
  have second : Widens moment.now (composite .and [dark 60, darker 10]) wide :=
    @Widens.inside _ .and [dark 60] [] _ _ _ (.change (by decide +kernel))
  have widened := (Relation.ReflTransGen.single first).tail second
  have holds : (narrow.evaluate darkeningHall.telemetry moment none).value = .ok true := by
    rw [evaluate_value darkeningHall.telemetry_reliable]
    exact congrArg Except.ok (by decide +kernel)
  exact ⟨widened, holds, (widening_keeps_true widened).1 darkeningHall holds⟩

end Condition

end DeviceRules
