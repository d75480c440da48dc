import DeviceRules.Database.Rules
import DeviceRules.Proofs.Document.Condition
import DeviceRules.Proofs.Time.SignedYears
import DeviceRules.Proofs.Time.TextOrder

/-! Instants that are written into documents and rows, and read again. In the years 0 to 9999 they come back, those of
rows cut to the microsecond. Outside, the text has a sign in front of the year and a zone behind the time, and is not
read at all: the node with the last trigger is not supported any more, and the creation time of the rule is replaced. -/
namespace DeviceRules

namespace Instant

/-- Just the instants of the years 0 to 9999 are read back from their texts. -/
theorem ofText?_text_eq (t : Instant) : ofText? t.text = if 0 ≤ t.year ∧ t.year ≤ 9999 then some t else none := by
  split
  · rename_i inYears
    exact t.ofText?_text inYears
  · rename_i outside
    exact t.ofText?_of_outside outside _

theorem ofText?_microText_eq (t : Instant) :
    ofText? t.microText = if 0 ≤ t.year ∧ t.year ≤ 9999 then some t.atMicro else none := by
  split
  · rename_i inYears
    exact t.ofText?_microText inYears
  · rename_i outside
    exact t.ofText?_of_outside outside _

end Instant

theorem TimeCondition.ofFields_interval_of_outside (minutes : UInt32) {t : Instant}
    (outside : ¬(0 ≤ t.year ∧ t.year ≤ 9999)) :
    ofFields (("type", .text "time_based") :: (interval minutes (some t)).fields) = .error (.badInstant t.text) := by
  have kind : Reader.tag TimeKind.table (.text "interval") = .ok .interval := rfl
  have unread : Reader.instant (.text t.text) = .error (.badInstant t.text) := by
    simp [Reader.instant, Reader.optional, Reader.text, t.ofText?_text_eq, outside]
  simp [ofFields, ofKind, fields, Fields.read?, Fields.readOr, Fields.required, kind, unread, Reader.word_whole]
  rfl

/-- An interval that is saved with its last trigger and loaded again. -/
theorem Condition.ofJson_interval (minutes : UInt32) (t : Instant) :
    ofJson (.object (time (.interval minutes (some t))).fields) =
      if 0 ≤ t.year ∧ t.year ≤ 9999 then time (.interval minutes (some t))
      else unsupported (some "time_based") (.badInstant t.text) := by
  have loaded : ofJson (.object (time (.interval minutes (some t))).fields) = orUnsupported "time_based" (time <$>
      TimeCondition.ofFields (("type", .text "time_based") :: (TimeCondition.interval minutes (some t)).fields)) := rfl
  rw [loaded]
  split
  · rename_i inYears
    rw [TimeCondition.ofFields_fields fun _ last same => by cases same; exact inYears]
    rfl
  · rename_i outside
    rw [TimeCondition.ofFields_interval_of_outside minutes outside]
    rfl

/-- The creation time of a rule that is stored and loaded again. -/
theorem RuleRow.creation_ofRule (rule : Rule) (id : RuleId) :
    (ofRule rule).creation id =
      if 0 ≤ rule.createdAt.year ∧ rule.createdAt.year ≤ 9999 then ⟨rule.createdAt.atMicro, []⟩
      else ⟨.epoch, [.creationUnreadable id rule.createdAt.microText]⟩ := by
  have text : (ofRule rule).createdAt = rule.createdAt.microText := rfl
  rw [creation, text, Instant.ofText?_microText_eq]
  by_cases inYears : 0 ≤ rule.createdAt.year ∧ rule.createdAt.year ≤ 9999
  · rw [if_pos inYears, if_pos inYears]
  · rw [if_neg inYears, if_neg inYears]

/-- Whatever instant it is, the text of a document gives it back and that of a row gives it back to the microsecond
when its year has four digits, and neither gives any instant when it has not. So an interval keeps its last trigger, or
is not supported any more, and a rule keeps its creation time, or has the epoch for it. -/
theorem saved_instants_return_in_four_digit_years (t : Instant) :
    (Instant.ofText? t.text = if 0 ≤ t.year ∧ t.year ≤ 9999 then some t else none) ∧
    (Instant.ofText? t.microText = if 0 ≤ t.year ∧ t.year ≤ 9999 then some t.atMicro else none) ∧
    (∀ minutes : UInt32, Condition.ofJson (.object (Condition.time (.interval minutes (some t))).fields) =
      if 0 ≤ t.year ∧ t.year ≤ 9999 then .time (.interval minutes (some t))
      else .unsupported (some "time_based") (.badInstant t.text)) ∧
    ∀ (rule : Rule) (id : RuleId), (RuleRow.ofRule { rule with createdAt := t }).creation id =
      if 0 ≤ t.year ∧ t.year ≤ 9999 then ⟨t.atMicro, []⟩ else ⟨.epoch, [.creationUnreadable id t.microText]⟩ :=
  ⟨t.ofText?_text_eq, t.ofText?_microText_eq, fun minutes => Condition.ofJson_interval minutes t,
    fun rule => RuleRow.creation_ofRule { rule with createdAt := t }⟩

/-- An hour into the year 10000, while a clock one hour behind still shows the year 9999. -/
def afterFourDigits : Instant := (Instant.of? 253402304399 0).getD .epoch

def lateInterval : Fields :=
  [("type", .text "time_based"), ("time_type", .text "interval"), ("last_trigger", .text "9999-12-31T23:59:59-01:00")]

/-- An instant that is read from a text with an offset and written with a year of five digits, which is not read. -/
theorem saving_loses_late_instant :
    (Instant.ofText? "9999-12-31T23:59:59-01:00" = some afterFourDigits ∧
      afterFourDigits.text = "+10000-01-01T00:59:59Z" ∧
      Instant.ofText? afterFourDigits.text = none ∧ Instant.ofText? afterFourDigits.microText = none) ∧
    (Condition.ofJson (.object lateInterval) = .time (.interval 60 (some afterFourDigits)) ∧
      Condition.ofJson (.object (Condition.time (.interval 60 (some afterFourDigits))).fields) =
        .unsupported (some "time_based") (.badInstant "+10000-01-01T00:59:59Z")) ∧
    ∀ (rule : Rule) (id : RuleId), rule.createdAt = afterFourDigits →
      (RuleRow.ofRule rule).creation id = ⟨.epoch, [.creationUnreadable id "+10000-01-01T00:59:59.000000Z"]⟩ := by
  have read : Instant.ofText? "9999-12-31T23:59:59-01:00" = some afterFourDigits := by decide +kernel
  have text : afterFourDigits.text = "+10000-01-01T00:59:59Z" := by decide +kernel
  have stored : afterFourDigits.microText = "+10000-01-01T00:59:59.000000Z" := by decide +kernel
  have outside : ¬(0 ≤ afterFourDigits.year ∧ afterFourDigits.year ≤ 9999) := by decide +kernel
  have decoded : TimeCondition.ofFields lateInterval = .ok (.interval 60 (some afterFourDigits)) := by
    have kind : Reader.tag TimeKind.table (.text "interval") = .ok .interval := rfl
    have given : Reader.instant (.text "9999-12-31T23:59:59-01:00") = .ok (some afterFourDigits) := by
      simp [Reader.instant, Reader.optional, Reader.text, read]
    simp [TimeCondition.ofFields, TimeCondition.ofKind, lateInterval, Fields.read?, Fields.readOr, Fields.required,
      kind, given]
  refine ⟨⟨read, text, ?_, ?_⟩, ⟨?_, ?_⟩, fun rule id created => ?_⟩
  · rw [Instant.ofText?_text_eq, if_neg outside]
  · rw [Instant.ofText?_microText_eq, if_neg outside]
  · exact congrArg (fun read => Condition.orUnsupported "time_based" (Condition.time <$> read)) decoded
  · rw [Condition.ofJson_interval, if_neg outside, text]
  · rw [RuleRow.creation_ofRule, created, if_neg outside, stored]

end DeviceRules
