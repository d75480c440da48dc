import DeviceRules.Proofs.Document.Condition

/-! A trigger document that is decoded, saved and loaded again. -/
namespace DeviceRules

namespace Trigger

theorem minIntervalOf_eq_some {document : Json} {seconds : Float} (found : minIntervalOf document = some seconds) :
    seconds.isFinite = true ∧ 0 ≤ seconds := by
  obtain ⟨number, kept⟩ := Option.filter_eq_some_iff.mp found
  obtain ⟨value, -, number⟩ := Option.bind_eq_some_iff.mp number
  exact ⟨Json.float?_isFinite number, of_decide_eq_true kept⟩

theorem minIntervalOf_toJson {t : Trigger}
    (valid : ∀ seconds, t.minInterval = some seconds → seconds.isFinite = true ∧ 0 ≤ seconds) :
    minIntervalOf t.toJson = t.minInterval := by
  obtain ⟨minInterval, condition⟩ := t
  cases minInterval with
  | none =>
      have unset : Fields.get? condition.fields "min_interval_seconds" = none :=
        get?_of_outer condition.fst_notMem_outerKeys (by decide)
      simp [minIntervalOf, toJson, Json.get?, unset]
  | some seconds =>
      obtain ⟨finite, positive⟩ := valid seconds rfl
      simp [minIntervalOf, toJson, Json.get?, Json.float?, Json.finite?, finite, positive, Option.filter]

/-- A saved trigger is loaded as it was, up to its unsupported nodes. -/
theorem ofJson_toJson {t : Trigger}
    (valid : ∀ seconds, t.minInterval = some seconds → seconds.isFinite = true ∧ 0 ≤ seconds)
    (finite : ∀ node ∈ t.condition.nodes, node.numbersFinite)
    (inYears : ∀ last ∈ t.condition.lastTriggers, 0 ≤ last.year ∧ last.year ≤ 9999) :
    ofJson t.toJson = ⟨t.minInterval, t.condition.reread⟩ := by
  have node : Condition.ofJson t.toJson = t.condition.reread := by
    rw [← Condition.ofJson_fields t.condition finite inYears]
    refine Condition.ofJson_append fun key inner => ?_
    split
    · have other : key ≠ "min_interval_seconds" := fun same => inner (same ▸ by decide)
      simp [other]
    · rfl
  rw [ofJson, minIntervalOf_toJson valid, node]

/-- A decoded trigger that is saved and loaded comes back as it was, with the rate limit and with the device, the kind
and the fields of every node, except that the unsupported nodes come back as the unsupported kind `unsupported`. To do
it a second time changes nothing. -/
theorem trigger_survives_saving (document : Json)
    (inYears : ∀ last ∈ (ofJson document).condition.lastTriggers, 0 ≤ last.year ∧ last.year ≤ 9999) :
    let t := ofJson document
    let again := ofJson t.toJson
    again = ⟨t.minInterval, t.condition.reread⟩ ∧
      ((∀ node ∈ t.condition.nodes, node.isUnsupported = false) → again = t) ∧
      ofJson again.toJson = again ∧
      Defect.unknownCondition.message = "unknown condition type" := by
  intro t again
  have valid : ∀ document seconds, (ofJson document).minInterval = some seconds →
      seconds.isFinite = true ∧ 0 ≤ seconds := fun _ _ => minIntervalOf_eq_some
  have finite : ∀ document, ∀ node ∈ (ofJson document).condition.nodes, node.numbersFinite :=
    fun _ => Condition.numbersFinite_ofJson rfl
  have first : again = ⟨t.minInterval, t.condition.reread⟩ := ofJson_toJson (valid _) (finite _) inYears
  refine ⟨first, fun supported => ?_, ?_, rfl⟩
  · rw [first, Condition.reread_of_supported supported]
  · have sameTriggers : again.condition.lastTriggers = t.condition.lastTriggers := by
      rw [first]
      exact t.condition.lastTriggers_reread
    have second : ofJson again.toJson = ⟨again.minInterval, again.condition.reread⟩ :=
      ofJson_toJson (valid _) (finite _) (sameTriggers ▸ inYears)
    rw [second, first, Condition.reread_reread]

def hallDocument : Json :=
  .object [("type", .text "composite"), ("min_interval_seconds", .whole 90), ("operator", .text "or"),
    ("conditions", .array [
      .object [("device_id", .text "hall"), ("type", .text "value_threshold"), ("data_type", .text "lux"),
        ("operator", .text "lt"), ("threshold", .whole 40), ("window_minutes", .real 2.5)],
      .object [("type", .text "time_based"), ("time_type", .text "interval"),
        ("last_trigger", .text "2024-05-01 08:00:00")],
      .object [("device_id", .text "hall"), ("type", .text "value_change")],
      .null])]

theorem trigger_survives_saving_of_hall :
    (∃ last, (ofJson hallDocument).condition.lastTriggers = [last] ∧ 0 ≤ last.year ∧ last.year ≤ 9999) ∧
      ofJson (ofJson hallDocument).toJson =
        ⟨(ofJson hallDocument).minInterval, (ofJson hallDocument).condition.reread⟩ := by
  have inYears : ∀ last ∈ (ofJson hallDocument).condition.lastTriggers, 0 ≤ last.year ∧ last.year ≤ 9999 := by
    decide +kernel
  have one : (ofJson hallDocument).condition.lastTriggers.length = 1 := by decide +kernel
  obtain ⟨last, named⟩ := List.length_eq_one_iff.mp one
  exact ⟨⟨last, named, inYears last (by simp [named])⟩, (trigger_survives_saving hallDocument inYears).1⟩

end Trigger

end DeviceRules
