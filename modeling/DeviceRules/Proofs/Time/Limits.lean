import DeviceRules.Proofs.Engine.FireState
import DeviceRules.Proofs.Time.Passing
import Mathlib.Tactic.SplitIfs

/-! Limits that decide nothing. Durations count their seconds in 64 bits, distances of instants their milliseconds in
63, and instants end with the calendar. What a range cannot hold is longer than any two instants are apart, so a
duration that is clamped, and a window that starts at the earliest instant instead, decide as whole numbers without
limits do. Instants are taken outside leap seconds, where nanoseconds since the epoch count the time that passes. -/
namespace DeviceRules

namespace Duration

variable {x : Float} {n : Nat}

/-- A number of seconds in whole nanoseconds, rounded as a duration is but with no greatest number; infinitely many
seconds are none. -/
def unlimited? (x : Float) : Option Nat :=
  if x > 0 then
    if x.isFinite then
      let (numerator, denominator) := (Decimal.Dyadic.ofFloat x).ratio
      some (Decimal.roundHalfEven (numerator * nanosPerSecond) denominator)
    else none
  else some 0

theorem nanos_ofNanos (n : Nat) : (ofNanos n).nanos = min n max.nanos := by
  unfold ofNanos
  split
  · rename_i short
    simp only [max]
    omega
  · rename_i long
    simp only [max] at *
    omega

theorem nanos_ofSeconds (length : unlimited? x = some n) : (ofSeconds x).nanos = min n max.nanos := by
  unfold unlimited? at length
  unfold ofSeconds
  split_ifs at length ⊢ with positive finite
  · cases length
    exact nanos_ofNanos _
  · cases length
    rw [Nat.zero_min]
    rfl

theorem ofSeconds_of_infinite (endless : unlimited? x = none) : ofSeconds x = max := by
  unfold unlimited? at endless
  unfold ofSeconds
  split_ifs at endless ⊢ with positive finite
  rfl

theorem maxDistance_lt_max : maxDistance < max.nanos := by decide

end Duration

namespace Instant

variable {t other : Instant}

theorem eq_of_nanos (plain : t.isLeap = false) (otherPlain : other.isLeap = false)
    (same : t.nanos = other.nanos) : t = other := by
  rw [not_isLeap_iff] at plain otherPlain
  simp only [nanos, nanosPerSecond] at same
  have second : t.second = other.second := by omega
  have nano : t.nano = other.nano := by omega
  cases t
  cases other
  simp only [mk.injEq]
  exact ⟨second, nano⟩

theorem earliest_nanos_le (t : Instant) : earliest.nanos ≤ t.nanos := by
  have first := t.inRange.1
  simp only [nanos, earliest, nanosPerSecond]
  omega

theorem since_of_plain (plain : t.isLeap = false) (otherPlain : other.isLeap = false) :
    t.since other = t.nanos - other.nanos := by
  simp [since, plain, otherPlain]

/-- The distance back is the distance there. -/
theorem since_swap (a b : Instant) : a.since b = -b.since a := by
  simp only [since, nanosPerSecond]
  split_ifs <;> omega

/-- Any two instants are as far apart as a distance can say. -/
theorem natAbs_since_lt (a b : Instant) : (a.since b).natAbs < Duration.maxDistance := by
  have there := since_lt_maxDistance a b
  have back := since_lt_maxDistance b a
  rw [since_swap] at back
  omega

variable {now : Instant} {minutes : Float}

theorem minus?_of_plain (plain : now.isLeap = false) (back : Nat) :
    now.minus? back = ofNanos? (now.nanos - back) := by
  simp only [minus?, plain, Bool.false_eq_true, if_false]

theorem minus?_eq_some_iff (plain : now.isLeap = false) {back : Nat} {start : Instant} :
    now.minus? back = some start ↔ start.isLeap = false ∧ start.nanos = now.nanos - back := by
  rw [minus?_of_plain plain, ofNanos?_eq_some_iff, not_isLeap_iff]
  rfl

/-- Going back fails just where there is no instant that early. -/
theorem minus?_eq_none_iff (plain : now.isLeap = false) {back : Nat} :
    now.minus? back = none ↔ now.nanos - back < earliest.nanos := by
  constructor
  · intro failed
    refine Int.not_le.mp fun late => ?_
    have last := now.inRange.2
    have short := not_isLeap_iff.mp plain
    simp only [nanos, earliest, nanosPerSecond] at late
    rw [minus?_of_plain plain] at failed
    simp only [nanos, nanosPerSecond] at failed
    have reached : ∃ start, ofNanos? (now.second * 1000000000 + now.nano - back) = some start :=
      exists_ofNanos? (by omega) (by omega)
    obtain ⟨start, found⟩ := reached
    cases failed.symm.trans found
  · intro early
    cases found : now.minus? back with
    | none => rfl
    | some start =>
        have reached := (minus?_eq_some_iff plain).mp found
        have first := start.earliest_nanos_le
        omega

/-- A distance back from now is counted in seconds of 63 bits. -/
theorem natAbs_minus_lt {back : Nat} (short : back ≤ Duration.maxDistance) :
    (now.nanos - back).natAbs / nanosPerSecond < 0x8000000000000000 := by
  have range := now.inRange
  have fraction := now.nano_lt
  simp only [Duration.maxDistance, nanos, nanosPerSecond] at *
  omega

/-- A window starts as much before now as its duration says, or at the earliest instant if that is later. -/
theorem windowStart_exact (plain : now.isLeap = false) (minutes : Float) :
    (now.windowStart minutes).isLeap = false ∧
      (now.windowStart minutes).nanos = max earliest.nanos (now.nanos - (Duration.ofSeconds (minutes * 60)).nanos) := by
  unfold windowStart Duration.distance?
  split_ifs with short <;> dsimp only
  · cases found : now.minus? (Duration.ofSeconds (minutes * 60)).nanos with
    | none =>
        have early := (minus?_eq_none_iff plain).mp found
        exact ⟨by decide, by rw [Option.getD_none]; omega⟩
    | some start =>
        obtain ⟨startPlain, reached⟩ := (minus?_eq_some_iff plain).mp found
        have first := start.earliest_nanos_le
        exact ⟨startPlain, by rw [Option.getD_some]; omega⟩
  · -- too long for a distance, and so longer than it is since the earliest instant
    have apart := since_lt_maxDistance now earliest
    rw [since_of_plain plain (by decide)] at apart
    exact ⟨by decide, by omega⟩

theorem eq_windowStart_iff (plain : now.isLeap = false) (minutes : Float) (start : Instant) :
    start = now.windowStart minutes ↔ start.isLeap = false ∧
      start.nanos = max earliest.nanos (now.nanos - (Duration.ofSeconds (minutes * 60)).nanos) := by
  obtain ⟨startPlain, exact⟩ := windowStart_exact plain minutes
  constructor
  · rintro rfl
    exact ⟨startPlain, exact⟩
  · rintro ⟨otherPlain, same⟩
    exact eq_of_nanos otherPlain startPlain (same.trans exact.symm)

/-- Where durations end makes no difference to a window. -/
theorem windowStart_of_unlimited (plain : now.isLeap = false) {n : Nat}
    (length : Duration.unlimited? (minutes * 60) = some n) :
    (now.windowStart minutes).nanos = max earliest.nanos (now.nanos - n) := by
  have apart := since_lt_maxDistance now earliest
  have longest := Duration.maxDistance_lt_max
  rw [since_of_plain plain (by decide)] at apart
  rw [(windowStart_exact plain minutes).2, Duration.nanos_ofSeconds length]
  omega

theorem windowStart_of_infinite (endless : Duration.unlimited? (minutes * 60) = none) :
    now.windowStart minutes = earliest := by
  have long : Duration.max.distance? = none := by decide
  rw [windowStart, Duration.ofSeconds_of_infinite endless, long]

end Instant

theorem FireState.isDue_iff_nanos (state : FireState) {rule : RuleId} {interval : Duration} {now : Instant}
    (plain : now.isLeap = false) (firings : ∀ last, state.lastFired rule = some last → last.isLeap = false) :
    state.isDue rule interval now = true ↔ state.lastFired rule = none ∨
      ∃ last, state.lastFired rule = some last ∧ (interval.nanos : Int) ≤ now.nanos - last.nanos := by
  rw [isDue_iff]
  cases fired : state.lastFired rule with
  | none => simp
  | some last => simp [Instant.since_of_plain plain (firings last fired)]

/-- A rule is due when it has never fired or its last firing is as many nanoseconds ago as its rate limit has, and a
window starts at the later of the earliest instant and as many nanoseconds before now as it is long, whatever the
limits of durations, distances and instants are; so it never starts after now. None of the subtractions leaves its range:
the distance of two instants always has a number of milliseconds, and going back from now by a distance fails just where
there is no instant. -/
theorem limits_decide_nothing (state : FireState) (rule : RuleId) (interval : Duration) {now : Instant} (minutes : Float)
    (plain : now.isLeap = false) (firings : ∀ last, state.lastFired rule = some last → last.isLeap = false) :
    (state.isDue rule interval now = true ↔ state.lastFired rule = none ∨
      ∃ last, state.lastFired rule = some last ∧ (interval.nanos : Int) ≤ now.nanos - last.nanos) ∧
    (∀ start, start = now.windowStart minutes ↔ start.isLeap = false ∧
      start.nanos = max Instant.earliest.nanos (now.nanos - (Duration.ofSeconds (minutes * 60)).nanos)) ∧
    (∀ n, Duration.unlimited? (minutes * 60) = some n →
      (now.windowStart minutes).nanos = max Instant.earliest.nanos (now.nanos - n)) ∧
    (Duration.unlimited? (minutes * 60) = none → now.windowStart minutes = .earliest) ∧
    now.windowStart minutes ≤ now ∧
    (∀ other, (now.since other).natAbs < Duration.maxDistance) ∧
    ∀ back ≤ Duration.maxDistance, (now.nanos - back).natAbs / nanosPerSecond < 0x8000000000000000 ∧
      (now.minus? back = none ↔ now.nanos - back < Instant.earliest.nanos) := by
  exact ⟨state.isDue_iff_nanos plain firings, Instant.eq_windowStart_iff plain minutes,
    fun n => Instant.windowStart_of_unlimited plain, Instant.windowStart_of_infinite, now.windowStart_le minutes,
    now.natAbs_since_lt, fun back short => ⟨Instant.natAbs_minus_lt short, Instant.minus?_eq_none_iff plain⟩⟩

/-- A rule that fired half an hour ago is due after that time and not in ages, while a window of five minutes starts five
minutes ago and one without an end at the earliest instant. -/
theorem limits_decide_nothing_of_half_hour :
    let now : Instant := (Instant.of? 1800 500).getD .epoch
    let state := FireState.empty.record default .epoch
    now.isLeap = false ∧ (∀ last, state.lastFired default = some last → last.isLeap = false) ∧
    state.isDue default (.ofWholeSeconds 1800) now = true ∧ state.isDue default .max now = false ∧
    (now.windowStart 5).nanos = 1500000000500 ∧
    Duration.unlimited? (5 * 60) = some 300000000000 ∧ Duration.unlimited? (1 / 0 * 60) = none ∧
    now.windowStart (1 / 0) = .earliest := by
  intro now state
  have plain : now.isLeap = false := by decide
  have fired : state.lastFired default = some .epoch := by
    rw [FireState.lastFired_record, if_pos rfl]
  have firings : ∀ last, state.lastFired default = some last → last.isLeap = false := by
    intro last known
    cases fired.symm.trans known
    decide
  have finite : Duration.unlimited? (5 * 60) = some 300000000000 := by decide +kernel
  have endless : Duration.unlimited? (1 / 0 * 60) = none := by decide +kernel
  obtain ⟨due, -, start, -⟩ := limits_decide_nothing state default (.ofWholeSeconds 1800) 5 plain firings
  obtain ⟨late, -, -, first, -⟩ := limits_decide_nothing state default .max (1 / 0) plain firings
  refine ⟨plain, firings, due.mpr (.inr ⟨_, fired, by decide⟩), ?_, (start _ finite).trans (by decide +kernel), finite,
    endless, first endless⟩
  rw [Bool.eq_false_iff, ne_eq, late, fired]
  rintro (never | ⟨last, known, passed⟩)
  · cases never
  · cases known
    exact absurd passed (by decide)

end DeviceRules
