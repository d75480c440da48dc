import DeviceRules.Proofs.Time.Order

/-! The instants that follow an instant. Passing on twice leads to where passing on once for both together does, in a
leap second and out of it as well. -/
namespace DeviceRules.Instant

variable {t later : Instant} {n : Nat}

theorem isLeap_iff : t.isLeap = true ↔ 1000000000 ≤ t.nano := by
  simp [isLeap]

theorem not_isLeap_iff : t.isLeap = false ↔ t.nano < 1000000000 := by
  simp [isLeap]

theorem ofNanos?_eq_some_iff {count : Int} :
    ofNanos? count = some later ↔ later.nano < 1000000000 ∧ later.second * 1000000000 + later.nano = count := by
  have short : (count % 1000000000).toNat < 1000000000 := by omega
  constructor
  · intro found
    obtain ⟨second, nano⟩ := of?_eq_some found
    simp only [nanosPerSecond] at second nano
    omega
  · rintro ⟨plain, rfl⟩
    have second : (later.second * 1000000000 + later.nano) / 1000000000 = later.second := by omega
    have nano : ((later.second * 1000000000 + later.nano) % 1000000000).toNat = later.nano := by omega
    change of? ((later.second * 1000000000 + later.nano) / 1000000000)
      ((later.second * 1000000000 + later.nano) % 1000000000).toNat = some later
    rw [second, nano, of?_self]

theorem exists_ofNanos? {count : Int} (first : -8334601228800 ≤ count / 1000000000)
    (last : count / 1000000000 ≤ 8210266876799) : ∃ later, ofNanos? count = some later := by
  have short : (count % 1000000000).toNat < 1000000000 := by omega
  exact ⟨_, dif_pos ⟨⟨first, last⟩, by simp only [nanosPerSecond]; omega, by simp only [nanosPerSecond]; omega⟩⟩

theorem plus?_within (leap : 1000000000 ≤ t.nano) (short : t.nano + n < 2000000000) :
    t.plus? n = some later ↔ later.second = t.second ∧ later.nano = t.nano + n := by
  have within : t.nano + n < 2 * nanosPerSecond := short
  rw [plus?, if_pos (isLeap_iff.mpr leap), if_pos within]
  constructor
  · exact of?_eq_some
  · rintro ⟨second, nano⟩
    rw [← second, ← nano, of?_self]

theorem plus?_beyond (leap : 1000000000 ≤ t.nano) (long : 2000000000 ≤ t.nano + n) :
    t.plus? n = ofNanos? (t.second * 1000000000 + t.nano - 1000000000 + n) := by
  have beyond : ¬t.nano + n < 2 * nanosPerSecond := Nat.not_lt.mpr long
  rw [plus?, if_pos (isLeap_iff.mpr leap), if_neg beyond]
  rfl

theorem plus?_of_plain (plain : t.nano < 1000000000) :
    t.plus? n = ofNanos? (t.second * 1000000000 + t.nano + n) := by
  rw [plus?, if_neg (by simp [not_isLeap_iff.mpr plain])]
  rfl

theorem plus?_zero (t : Instant) : t.plus? 0 = some t := by
  have bounded : t.nano < 2000000000 := t.nano_lt
  by_cases plain : t.nano < 1000000000
  · rw [plus?_of_plain plain, ofNanos?_eq_some_iff]
    omega
  · exact (plus?_within (Nat.not_lt.mp plain) bounded).mpr ⟨rfl, rfl⟩

theorem eq_of_plus?_zero (found : t.plus? 0 = some later) : t = later :=
  Option.some.inj (t.plus?_zero.symm.trans found)

/-- On the way to an instant there is an instant at every time. -/
theorem exists_plus? {first rest : Nat} (found : t.plus? (first + rest) = some later) :
    ∃ middle, t.plus? first = some middle := by
  have start := t.inRange
  have stop := later.inRange
  by_cases plain : t.nano < 1000000000
  · rw [plus?_of_plain plain, ofNanos?_eq_some_iff] at found
    rw [plus?_of_plain plain]
    exact exists_ofNanos? (by omega) (by omega)
  · have leap := Nat.not_lt.mp plain
    by_cases short : t.nano + first < 2000000000
    · exact ⟨⟨t.second, t.nano + first, t.inRange, short, fun _ => t.leap leap⟩, (plus?_within leap short).mpr ⟨rfl, rfl⟩⟩
    · rw [plus?_beyond leap (by omega), ofNanos?_eq_some_iff] at found
      rw [plus?_beyond leap (Nat.not_lt.mp short)]
      exact exists_ofNanos? (by omega) (by omega)

/-- Passing on twice is passing on for both times together. -/
theorem plus?_plus? {first rest : Nat} {middle : Instant} (found : t.plus? first = some middle) :
    middle.plus? rest = t.plus? (first + rest) := by
  by_cases plain : t.nano < 1000000000
  · rw [plus?_of_plain plain, ofNanos?_eq_some_iff] at found
    rw [plus?_of_plain plain, plus?_of_plain found.1]
    exact congrArg ofNanos? (by omega)
  · have leap := Nat.not_lt.mp plain
    by_cases short : t.nano + first < 2000000000
    · obtain ⟨second, nano⟩ := (plus?_within leap short).mp found
      have middleLeap : 1000000000 ≤ middle.nano := by omega
      by_cases shorter : t.nano + (first + rest) < 2000000000
      · ext later
        rw [plus?_within leap shorter, plus?_within middleLeap (by omega)]
        omega
      · rw [plus?_beyond leap (Nat.not_lt.mp shorter), plus?_beyond middleLeap (by omega)]
        exact congrArg ofNanos? (by omega)
    · rw [plus?_beyond leap (Nat.not_lt.mp short), ofNanos?_eq_some_iff] at found
      rw [plus?_of_plain found.1, plus?_beyond leap (by omega)]
      exact congrArg ofNanos? (by omega)

theorem plus?_add {first rest : Nat} : t.plus? (first + rest) = some later ↔
    ∃ middle, t.plus? first = some middle ∧ middle.plus? rest = some later := by
  constructor
  · intro found
    obtain ⟨middle, start⟩ := exists_plus? found
    exact ⟨middle, start, (plus?_plus? start).trans found⟩
  · rintro ⟨middle, start, found⟩
    exact (plus?_plus? start).symm.trans found

end DeviceRules.Instant
