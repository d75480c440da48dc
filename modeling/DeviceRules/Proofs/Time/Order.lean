import DeviceRules.Time.Instant

/-! The order of instants, and what whole milliseconds keep of it. They keep it for all instants but those of a leap
second, which are counted as if they came after the second that follows it. The start of a window is no such instant,
or it lies in the last second that any window of that moment begins in. -/
namespace DeviceRules.Instant

variable {a b c : Instant}

theorem le_iff : a ≤ b ↔ a.second < b.second ∨ a.second = b.second ∧ a.nano ≤ b.nano := Iff.rfl

protected theorem le_refl (a : Instant) : a ≤ a := .inr ⟨rfl, Nat.le_refl _⟩

protected theorem le_trans (first : a ≤ b) (second : b ≤ c) : a ≤ c := by
  rw [le_iff] at first second ⊢
  omega

protected theorem le_total (a b : Instant) : a ≤ b ∨ b ≤ a := by
  rw [le_iff, le_iff]
  omega

protected theorem le_antisymm (first : a ≤ b) (second : b ≤ a) : a = b := by
  obtain ⟨secondA, nanoA⟩ := a
  obtain ⟨secondB, nanoB⟩ := b
  simp only [le_iff, mk.injEq] at first second ⊢
  omega

theorem millis_le_of_le (earlier : a ≤ b) (counted : a.isLeap = true → b.second ≤ a.second) : a.millis ≤ b.millis := by
  simp only [isLeap, nanosPerSecond, decide_eq_true_eq] at counted
  rw [le_iff] at earlier
  simp only [millis]
  omega

theorem of?_self (t : Instant) : of? t.second t.nano = some t :=
  dif_pos ⟨t.inRange, t.nano_lt, t.leap⟩

theorem of?_eq_some {second : Int} {nano : Nat} {t : Instant} (found : of? second nano = some t) :
    t.second = second ∧ t.nano = nano := by
  unfold of? at found
  split at found
  · cases found
    exact ⟨rfl, rfl⟩
  · cases found

theorem ofNanos?_eq_some {n : Int} {t : Instant} (found : ofNanos? n = some t) :
    t.second = n / 1000000000 ∧ t.isLeap = false := by
  obtain ⟨second, nano⟩ := of?_eq_some found
  refine ⟨second, ?_⟩
  simp only [isLeap, nano, nanosPerSecond, decide_eq_false_iff_not]
  omega

/-- Going back from an instant leads to no later second, and to a leap second only within it. -/
theorem second_of_minus? {t start : Instant} {back : Nat} (found : t.minus? back = some start) :
    start.second ≤ t.second ∧ (start.isLeap = true → start.second = t.second) := by
  have bounded : t.nano < 2 * 1000000000 := t.nano_lt
  simp only [minus?, isLeap, nanosPerSecond, nanos, decide_eq_true_eq] at found
  split at found
  · split at found
    · obtain ⟨second, -⟩ := of?_eq_some found
      exact ⟨Int.le_of_eq second, fun _ => second⟩
    · obtain ⟨second, plain⟩ := ofNanos?_eq_some found
      exact ⟨by omega, by simp [plain]⟩
  · obtain ⟨second, plain⟩ := ofNanos?_eq_some found
    exact ⟨by omega, by simp [plain]⟩

theorem second_windowStart (now : Instant) (minutes : Float) :
    (now.windowStart minutes).second ≤ now.second ∧
      ((now.windowStart minutes).isLeap = true → (now.windowStart minutes).second = now.second) := by
  have first : earliest.second ≤ now.second ∧ (earliest.isLeap = true → earliest.second = now.second) :=
    ⟨now.inRange.1, fun leap => absurd leap (by decide)⟩
  unfold windowStart
  split
  · rename_i back _
    cases found : now.minus? back with
    | none => exact first
    | some start => exact second_of_minus? found
  · exact first

theorem minus?_le {t start : Instant} {back : Nat} (found : t.minus? back = some start) : start ≤ t := by
  have bounded : t.nano < 2 * 1000000000 := t.nano_lt
  simp only [minus?, isLeap, nanosPerSecond, nanos, decide_eq_true_eq, ofNanos?] at found
  rw [le_iff]
  split at found
  · split at found
    · obtain ⟨second, nano⟩ := of?_eq_some found
      exact .inr ⟨second, by omega⟩
    · obtain ⟨second, nano⟩ := of?_eq_some found
      omega
  · obtain ⟨second, nano⟩ := of?_eq_some found
    omega

/-- No window starts after now. -/
theorem windowStart_le (now : Instant) (minutes : Float) : now.windowStart minutes ≤ now := by
  have first : earliest ≤ now := by
    have bound := now.inRange.1
    rw [le_iff]
    simp only [earliest]
    omega
  unfold windowStart
  split
  · rename_i back _
    cases found : now.minus? back with
    | none => exact first
    | some start => exact minus?_le found
  · exact first

theorem minus?_zero (now : Instant) : now.minus? 0 = some now := by
  cases leap : now.isLeap with
  | true =>
      simp only [minus?, leap, if_true]
      exact now.of?_self
  | false =>
      have short : now.nano < 1000000000 := by simpa [isLeap] using leap
      have second : (now.second * 1000000000 + now.nano) / 1000000000 = now.second := by omega
      have nano : ((now.second * 1000000000 + now.nano) % 1000000000).toNat = now.nano := by omega
      simp only [minus?, leap, Bool.false_eq_true, if_false]
      change of? ((now.second * 1000000000 + now.nano - 0) / 1000000000)
        ((now.second * 1000000000 + now.nano - 0) % 1000000000).toNat = some now
      rw [Int.sub_zero, second, nano, of?_self]

/-- A window of no length starts now. -/
theorem windowStart_of_not_pos (now : Instant) {minutes : Float} (none : ¬0 < minutes * 60) :
    now.windowStart minutes = now := by
  have length : Duration.ofSeconds (minutes * 60) = .zero := if_neg none
  have distance : Duration.zero.distance? = some 0 := rfl
  rw [windowStart, length, distance]
  simp [minus?_zero]

/-- Of two windows before the same moment, the one that starts earlier also starts earlier in whole milliseconds. -/
theorem millis_windowStart_le {now : Instant} {wide narrow : Float}
    (earlier : now.windowStart wide ≤ now.windowStart narrow) :
    (now.windowStart wide).millis ≤ (now.windowStart narrow).millis := by
  refine millis_le_of_le earlier fun leap => ?_
  rw [(now.second_windowStart wide).2 leap]
  exact (now.second_windowStart narrow).1

end DeviceRules.Instant
