import DeviceRules.Proofs.Evaluation.Meaning
import DeviceRules.Proofs.Time.Written
import Mathlib.Data.Prod.Lex

/-! Windows of the day as arcs of a circle of 1440 minutes. A window goes from its first minute clockwise to its last, so
a minute is in it when it is no further from the first than the last is, over midnight or not. What a window leaves out
is a window as well, unless it leaves out nothing. -/
namespace DeviceRules

/-- Clockwise from `first`, `now` is no further than `last`. -/
def OnArc (first last now : Int) : Prop := (now - first) % 1440 ≤ (last - first) % 1440

instance (first last now : Int) : Decidable (OnArc first last now) := inferInstanceAs (Decidable (_ ≤ _))

/-- The rest of the circle is the arc from the minute after an arc to the minute before it. -/
theorem onArc_rest {first last next previous now other : Int} (after : next % 1440 = (last + 1) % 1440)
    (before : previous % 1440 = (first - 1) % 1440) (outside : ¬OnArc first last other) :
    OnArc next previous now ↔ ¬OnArc first last now := by
  unfold OnArc at *
  omega

/-- The minute of the day that a text gives as a time of day. -/
def minuteOfDay? (text : String) : Option Nat := (timeOfDay? text).map fun time => time.1 * 60 + time.2

def LocalTime.minuteOfDay (t : LocalTime) : Nat := (t.second / 60 % 1440).toNat

theorem LocalTime.minuteOfDay_eq (t : LocalTime) : t.hour * 60 + t.minute = t.minuteOfDay := by
  simp only [hour, minute, minuteOfDay, secondsPerDay]
  omega

theorem LocalTime.minuteOfDay_lt (t : LocalTime) : t.minuteOfDay < 1440 := by
  rw [minuteOfDay]
  omega

theorem minuteOfDay?_eq_some_iff {text : String} {minute : Nat} :
    minuteOfDay? text = some minute ↔ ∃ time, timeOfDay? text = some time ∧ time.1 * 60 + time.2 = minute :=
  Option.map_eq_some_iff

theorem timeOfDay?_bounds {text : String} {time : Nat × Nat} (read : timeOfDay? text = some time) :
    time.1 < 24 ∧ time.2 < 60 := by
  simp only [timeOfDay?, Option.bind_eq_bind, Option.bind_eq_some_iff] at read
  obtain ⟨⟨hours, cs⟩, -, rest, -, ⟨minutes, others⟩, -, checked⟩ := read
  split at checked
  · rename_i range
    cases checked
    simp only [Bool.and_eq_true, decide_eq_true_eq] at range
    exact ⟨range.1.2, range.2⟩
  · cases checked

theorem minuteOfDay?_lt {text : String} {minute : Nat} (read : minuteOfDay? text = some minute) : minute < 1440 := by
  obtain ⟨time, found, rfl⟩ := minuteOfDay?_eq_some_iff.mp read
  have bounds := timeOfDay?_bounds found
  omega

/-- Times of day come in the order of their hours, and in an hour in that of their minutes. -/
theorem lex_le_iff {a b : Nat × Nat} (first : a.2 < 60) (second : b.2 < 60) :
    toLex a ≤ toLex b ↔ a.1 * 60 + a.2 ≤ b.1 * 60 + b.2 := by
  rw [Prod.Lex.toLex_le_toLex]
  omega

def clockText (minute : Nat) : String := String.ofList (padded 2 (minute / 60) ++ ':' :: padded 2 (minute % 60))

theorem minuteOfDay?_clockText {minute : Nat} (bounded : minute < 1440) :
    minuteOfDay? (clockText minute) = some minute := by
  have hours : minute / 60 < 24 := by omega
  have minutes : minute % 60 < 60 := by omega
  have visible : ∀ c ∈ padded 2 (minute / 60) ++ ':' :: padded 2 (minute % 60), Text.isBlank c = false := by
    intro c member
    rcases List.mem_append.mp member with digit | rest
    · exact Text.isBlank_of_isDigit (padded_digits c digit)
    · rcases List.mem_cons.mp rest with rfl | digit
      · decide
      · exact Text.isBlank_of_isDigit (padded_digits c digit)
  have colon (rest : List Char) : Reading.literal? ':' (':' :: rest) = some rest := rfl
  have last := Reading.pair?_padded (n := minute % 60) (by omega) []
  rw [List.append_nil] at last
  refine minuteOfDay?_eq_some_iff.mpr ⟨(minute / 60, minute % 60), ?_, by omega⟩
  rw [timeOfDay?, clockText, String.toList_ofList, Text.trim_of_visible visible, Reading.pair?_padded (by omega)]
  simp [colon, last, hours, minutes]

namespace TimeCondition

variable {start stop : String} {first last : Nat}

theorem within_eq_onArc {opening closing : Nat × Nat} {hours minutes now : Nat}
    (opens : opening.1 * 60 + opening.2 = first) (closes : closing.1 * 60 + closing.2 = last)
    (today : hours * 60 + minutes = now) (early : first < 1440) (late : last < 1440) (bounded : now < 1440) :
    within opening closing (hours, minutes) = decide (OnArc first last now) := by
  simp only [within, opens, closes, today]
  by_cases ordered : first ≤ last
  · have between : OnArc first last now ↔ first ≤ now ∧ now ≤ last := by
      unfold OnArc
      omega
    rw [if_pos ordered, ← Bool.decide_and]
    exact decide_eq_decide.mpr between.symm
  · -- over midnight, where the distance to the last minute wraps around
    have beyond : OnArc first last now ↔ first ≤ now ∨ now ≤ last := by
      unfold OnArc
      omega
    rw [if_neg ordered, ← Bool.decide_or]
    exact decide_eq_decide.mpr beyond.symm

theorem holds_of_times {opening closing : Nat × Nat} (starts : timeOfDay? start = some opening)
    (stops : timeOfDay? stop = some closing) (moment : Moment) :
    (timeOfDay start stop).holds moment =
      .ok (within opening closing (moment.localTime.hour, moment.localTime.minute)) := by
  simp only [holds, readTime, starts, stops]
  rfl

/-- A window compares hours before minutes, and goes over midnight when it starts later than it ends. -/
theorem holds_iff_lex {opening closing : Nat × Nat} (starts : timeOfDay? start = some opening)
    (stops : timeOfDay? stop = some closing) (moment : Moment) :
    let now := (moment.localTime.hour, moment.localTime.minute)
    (toLex opening ≤ toLex closing →
      ((timeOfDay start stop).holds moment = .ok true ↔ toLex opening ≤ toLex now ∧ toLex now ≤ toLex closing)) ∧
    (¬toLex opening ≤ toLex closing →
      ((timeOfDay start stop).holds moment = .ok true ↔ toLex opening ≤ toLex now ∨ toLex now ≤ toLex closing)) := by
  intro now
  have early := (timeOfDay?_bounds starts).2
  have late := (timeOfDay?_bounds stops).2
  have today : now.2 < 60 := by
    simp only [now, LocalTime.minute]
    omega
  rw [holds_of_times starts stops, lex_le_iff early late, lex_le_iff early today, lex_le_iff today late]
  constructor
  · intro ordered
    simp [within, ordered, now]
  · intro reversed
    simp [within, reversed, now]

theorem holds_of_minutes (starts : minuteOfDay? start = some first) (stops : minuteOfDay? stop = some last)
    (moment : Moment) :
    (timeOfDay start stop).holds moment = .ok (decide (OnArc first last moment.localTime.minuteOfDay)) := by
  obtain ⟨opening, opens, same⟩ := minuteOfDay?_eq_some_iff.mp starts
  obtain ⟨closing, closes, other⟩ := minuteOfDay?_eq_some_iff.mp stops
  rw [holds_of_times opens closes, within_eq_onArc same other moment.localTime.minuteOfDay_eq (minuteOfDay?_lt starts)
    (minuteOfDay?_lt stops) moment.localTime.minuteOfDay_lt]

/-- Of a window that is not the whole day and the window of the other minutes just one holds. -/
theorem holds_rest {next previous : String} (starts : minuteOfDay? start = some first)
    (stops : minuteOfDay? stop = some last) (after : minuteOfDay? next = some ((last + 1) % 1440))
    (before : minuteOfDay? previous = some ((first + 1439) % 1440)) {other : Moment}
    (outside : (timeOfDay start stop).holds other = .ok false) (moment : Moment) :
    ∃ b, (timeOfDay start stop).holds moment = .ok b ∧ (timeOfDay next previous).holds moment = .ok !b := by
  rw [holds_of_minutes starts stops] at outside
  have away : ¬OnArc first last other.localTime.minuteOfDay := of_decide_eq_false (Except.ok.inj outside)
  have rest : OnArc ↑((last + 1) % 1440) ↑((first + 1439) % 1440) moment.localTime.minuteOfDay ↔
      ¬OnArc first last moment.localTime.minuteOfDay := onArc_rest (by omega) (by omega) away
  refine ⟨_, holds_of_minutes starts stops moment, ?_⟩
  rw [holds_of_minutes after before, ← decide_not]
  exact congrArg Except.ok (decide_eq_decide.mpr rest)

/-- A window of the day, from the minute of one text to that of another, holds at the minutes on the arc between them,
as it does when hours are compared before minutes. Unless it holds all day, the window from the minute after it to the
minute before it, which has its texts, holds just when it does not. Of texts that are no times of day the first is
reported, whatever the time. -/
theorem windows_are_arcs (start stop : String) :
    (∀ first last, minuteOfDay? start = some first → minuteOfDay? stop = some last →
      (∀ moment, (timeOfDay start stop).holds moment =
        .ok (decide (OnArc first last moment.localTime.minuteOfDay))) ∧
      (∃ next previous, minuteOfDay? next = some ((last + 1) % 1440) ∧
        minuteOfDay? previous = some ((first + 1439) % 1440)) ∧
      ∀ next previous, minuteOfDay? next = some ((last + 1) % 1440) →
        minuteOfDay? previous = some ((first + 1439) % 1440) →
        (∃ other, (timeOfDay start stop).holds other = .ok false) →
        ∀ moment, ∃ b, (timeOfDay start stop).holds moment = .ok b ∧
          (timeOfDay next previous).holds moment = .ok !b) ∧
    (∀ opening closing, timeOfDay? start = some opening → timeOfDay? stop = some closing → ∀ moment : Moment,
      let now := (moment.localTime.hour, moment.localTime.minute)
      (toLex opening ≤ toLex closing →
        ((timeOfDay start stop).holds moment = .ok true ↔ toLex opening ≤ toLex now ∧ toLex now ≤ toLex closing)) ∧
      (¬toLex opening ≤ toLex closing →
        ((timeOfDay start stop).holds moment = .ok true ↔ toLex opening ≤ toLex now ∨ toLex now ≤ toLex closing))) ∧
    (minuteOfDay? start = none → ∀ moment, (timeOfDay start stop).holds moment = .error (.badTimeOfDay start)) ∧
    ∀ first, minuteOfDay? start = some first → minuteOfDay? stop = none →
      ∀ moment, (timeOfDay start stop).holds moment = .error (.badTimeOfDay stop) := by
  refine ⟨fun first last starts stops => ⟨holds_of_minutes starts stops, ?_, ?_⟩,
    fun opening closing starts stops moment => holds_iff_lex starts stops moment, fun bad moment => ?_,
    fun first starts bad moment => ?_⟩
  · exact ⟨clockText _, clockText _, minuteOfDay?_clockText (Nat.mod_lt _ (by decide)),
      minuteOfDay?_clockText (Nat.mod_lt _ (by decide))⟩
  · rintro next previous after before ⟨other, outside⟩
    exact holds_rest starts stops after before outside
  · have unreadable : timeOfDay? start = none := Option.map_eq_none_iff.mp bad
    exact holds_of_unreadable moment (by simp [unreadable?, unreadable])
  · obtain ⟨time, readable, -⟩ := minuteOfDay?_eq_some_iff.mp starts
    have unreadable : timeOfDay? stop = none := Option.map_eq_none_iff.mp bad
    exact holds_of_unreadable moment (by simp [unreadable?, readable, unreadable])

/-- A night from ten to six holds at half past eleven and not at noon, the day between the other way round. -/
theorem windows_are_arcs_of_night :
    let moment (second : Int) : Moment := ⟨.epoch, ⟨second⟩, none⟩
    let night := timeOfDay "22:00" " 6:00"
    let day := timeOfDay "06:01" "21:59"
    minuteOfDay? "22:00" = some 1320 ∧ minuteOfDay? " 6:00" = some 360 ∧ minuteOfDay? "06:01" = some 361 ∧
      minuteOfDay? "21:59" = some 1319 ∧ minuteOfDay? "24:00" = none ∧
    night.holds (moment 84600) = .ok true ∧ night.holds (moment 43200) = .ok false ∧
    day.holds (moment 84600) = .ok false ∧ day.holds (moment 43200) = .ok true ∧
    (timeOfDay "24:00" "noon").holds (moment 0) = .error (.badTimeOfDay "24:00") ∧
    (timeOfDay "22:00" "24:00").holds (moment 0) = .error (.badTimeOfDay "24:00") := by
  intro moment night day
  have ten : minuteOfDay? "22:00" = some 1320 := by decide +kernel
  have six : minuteOfDay? " 6:00" = some 360 := by decide +kernel
  have after : minuteOfDay? "06:01" = some 361 := by decide +kernel
  have before : minuteOfDay? "21:59" = some 1319 := by decide +kernel
  have none : minuteOfDay? "24:00" = none := by decide +kernel
  obtain ⟨arc, -, rest⟩ := (windows_are_arcs "22:00" " 6:00").1 1320 360 ten six
  have late : night.holds (moment 84600) = .ok true := (arc _).trans (congrArg Except.ok (by decide))
  have noon : night.holds (moment 43200) = .ok false := (arc _).trans (congrArg Except.ok (by decide))
  obtain ⟨_, first, second⟩ := rest "06:01" "21:59" after before ⟨_, noon⟩ (moment 84600)
  obtain ⟨_, third, fourth⟩ := rest "06:01" "21:59" after before ⟨_, noon⟩ (moment 43200)
  cases late.symm.trans first
  cases noon.symm.trans third
  exact ⟨ten, six, after, before, none, late, noon, second, fourth,
    (windows_are_arcs "24:00" "noon").2.2.1 none _, (windows_are_arcs "22:00" "24:00").2.2.2 _ ten none _⟩

end TimeCondition

end DeviceRules
