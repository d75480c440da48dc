import DeviceRules.Proofs.Time.Order
import DeviceRules.Proofs.Time.Written

/-! Texts of instants that show six digits of the second are in the order of the instants, to the microsecond. Every
part of such a text has a fixed number of digits, and texts are compared character by character, so the first part in
which two of them differ decides. A leap second is shown as second 60, which is greater than any other. -/
namespace DeviceRules

theorem append_lt_append_of_length {xs ys : List Char} (r s : List Char) (length : xs.length = ys.length)
    (less : xs < ys) : xs ++ r < ys ++ s := by
  induction xs generalizing ys with
  | nil =>
      obtain rfl := List.length_eq_zero_iff.mp length.symm
      exact absurd less (List.lt_irrefl _)
  | cons c xs ih =>
      obtain ⟨d, ys, rfl⟩ := List.exists_cons_of_length_eq_add_one length.symm
      rw [List.cons_append, List.cons_append, List.cons_lt_cons_iff]
      refine (List.cons_lt_cons_iff.mp less).imp_right (And.imp_right fun rest => ?_)
      exact ih (by simpa using length) rest

namespace Reading

theorem value_cons (c : Char) (digits : List Char) :
    value (c :: digits) = 10 ^ digits.length * (c.toNat - '0'.toNat) + value digits := by
  rw [value, List.foldl_cons, Nat.mul_zero, Nat.zero_add]
  exact Nat.ofDigitChars_eq_ofDigitChars_zero

theorem value_lt {digits : List Char} (all : ∀ c ∈ digits, c.isDigit = true) : value digits < 10 ^ digits.length := by
  induction digits with
  | nil => decide
  | cons c rest ih =>
      obtain ⟨digit, others⟩ := List.forall_mem_cons.mp all
      have most : c.toNat - '0'.toNat ≤ 9 := by
        have range := Text.toNat_of_isDigit digit
        change c.toNat - 48 ≤ 9
        omega
      calc value (c :: rest)
        _ = 10 ^ rest.length * (c.toNat - '0'.toNat) + value rest := value_cons c rest
        _ < 10 ^ rest.length * 9 + 10 ^ rest.length := Nat.add_lt_add_of_le_of_lt (Nat.mul_le_mul_left _ most) (ih others)
        _ = 10 ^ (c :: rest).length := by rw [List.length_cons, pow_succ]; omega

/-- Of two numbers with equally many digits the smaller has the smaller text. -/
theorem lt_of_value_lt {xs ys : List Char} (digitsX : ∀ c ∈ xs, c.isDigit = true) (digitsY : ∀ c ∈ ys, c.isDigit = true)
    (length : xs.length = ys.length) (less : value xs < value ys) : xs < ys := by
  induction xs generalizing ys with
  | nil =>
      obtain rfl := List.length_eq_zero_iff.mp length.symm
      exact absurd less (Nat.lt_irrefl _)
  | cons c xs ih =>
      obtain ⟨d, ys, rfl⟩ := List.exists_cons_of_length_eq_add_one length.symm
      obtain ⟨digitC, restX⟩ := List.forall_mem_cons.mp digitsX
      obtain ⟨digitD, restY⟩ := List.forall_mem_cons.mp digitsY
      have same : xs.length = ys.length := by simpa using length
      rw [value_cons, value_cons, same] at less
      rw [List.cons_lt_cons_iff]
      rcases Nat.lt_trichotomy c.toNat d.toNat with first | first | first
      · exact .inl first
      · obtain rfl := Char.toNat_inj.mp first
        exact .inr ⟨rfl, ih restX restY same (by omega)⟩
      · -- A greater first digit outweighs all the digits behind the smaller one.
        have rest := value_lt restY
        have higher : d.toNat - '0'.toNat + 1 ≤ c.toNat - '0'.toNat := by
          have range := Text.toNat_of_isDigit digitD
          change d.toNat - 48 + 1 ≤ c.toNat - 48
          omega
        have outweighs := Nat.mul_le_mul_left (10 ^ ys.length) higher
        rw [Nat.mul_add] at outweighs
        omega

end Reading

/-- A number with more text behind it decides the order unless it is the same. -/
theorem padded_append_lt {width m n : Nat} {r s : List Char} (positive : 0 < width) (fitsM : m < Nat.pow 10 width)
    (fitsN : n < Nat.pow 10 width) (order : m < n ∨ m = n ∧ r < s) : padded width m ++ r < padded width n ++ s := by
  have length : (padded width m).length = (padded width n).length := by
    rw [padded_length positive fitsM, padded_length positive fitsN]
  rcases order with less | ⟨rfl, less⟩
  · refine append_lt_append_of_length r s length (Reading.lt_of_value_lt padded_digits padded_digits length ?_)
    rwa [Reading.value_padded, Reading.value_padded]
  · exact List.append_left_lt less

/-- Numbers of given widths, each with a sign behind it. -/
def partsText : List (Nat × Char) → List Nat → List Char
  | (width, sign) :: layout, n :: rest => padded width n ++ sign :: partsText layout rest
  | _, _ => []

def FitsWidth (part : Nat × Char) (n : Nat) : Prop := 0 < part.1 ∧ n < Nat.pow 10 part.1

/-- Numbers that fit their widths are written in their order, the first that differs decides. -/
theorem partsText_lt {layout : List (Nat × Char)} {ms ns : List Nat} (fitsM : List.Forall₂ FitsWidth layout ms)
    (fitsN : List.Forall₂ FitsWidth layout ns) (less : ms < ns) : partsText layout ms < partsText layout ns := by
  induction fitsM generalizing ns with
  | nil =>
      cases fitsN
      exact absurd less (List.lt_irrefl _)
  | @cons part m layout ms fits _ ih =>
      cases fitsN with
      | @cons _ n _ ns fits' others =>
          refine padded_append_lt fits.1 fits.2 fits'.2 ((List.cons_lt_cons_iff.mp less).imp_right ?_)
          exact And.imp_right fun rest => List.cons_lt_cons_self.mpr (ih others rest)

def Reading.Stamp.parts (s : Stamp) : List Nat :=
  [s.year.toNat, s.month, s.day, s.hour, s.minute, s.second, s.nano / 1000]

/-- How many digits each part has, and the sign behind it. -/
def stampLayout : List (Nat × Char) :=
  [(4, '-'), (2, '-'), (2, 'T'), (2, ':'), (2, ':'), (2, '.'), (6, 'Z')]

namespace Instant

/-- The instant with what lies behind the microsecond cut off. -/
def atMicro (t : Instant) : Instant where
  second := t.second
  nano := t.nano / 1000 * 1000
  inRange := t.inRange
  nano_lt := Nat.lt_of_le_of_lt (Nat.div_mul_le_self _ _) t.nano_lt
  leap counted := t.leap (Nat.le_trans counted (Nat.div_mul_le_self _ _))

theorem isLeap_atMicro (t : Instant) : t.atMicro.isLeap = t.isLeap := by
  simp only [isLeap, atMicro, nanosPerSecond]
  grind

/-- The text to the microsecond depends on nothing behind it. -/
theorem microText_atMicro (t : Instant) : t.atMicro.microText = t.microText := by
  have micros : t.atMicro.nano % nanosPerSecond / 1000 = t.nano % nanosPerSecond / 1000 := by
    simp only [atMicro, nanosPerSecond]
    omega
  simp only [microText, secondText, isLeap_atMicro, micros]
  rfl

/-- The text to the microsecond is read back as the instant that it shows. -/
theorem ofText?_microText (t : Instant) (inYears : 0 ≤ t.year ∧ t.year ≤ 9999) : ofText? t.microText = some t.atMicro := by
  obtain ⟨micros, cut⟩ : ∃ micros, t.atMicro.nano % nanosPerSecond / 1000 = micros := ⟨_, rfl⟩
  have nano : micros * 1000 = t.atMicro.nano % nanosPerSecond := by
    simp only [atMicro, nanosPerSecond] at cut ⊢
    omega
  have fits : micros < Nat.pow 10 6 := by
    simp only [nanosPerSecond, Nat.pow_eq, Nat.reducePow] at cut ⊢
    omega
  have read : Reading.fraction? ('.' :: (padded 6 micros ++ ['Z'])) = some (micros * 1000, ['Z']) :=
    Reading.fraction?_padded (by decide) (by decide) fits rfl
  have shows : { t.atMicro.stamp with nano := micros * 1000 } = t.atMicro.stamp := by
    rw [nano]
    rfl
  rw [← microText_atMicro, microText, cut]
  refine t.atMicro.ofText?_secondText inYears read ?_
  rw [shows, stamp_instant?]

theorem not_atMicro_le_iff {a b : Instant} : ¬b.atMicro ≤ a.atMicro ↔
    a.second < b.second ∨ a.second = b.second ∧ a.nano / 1000 < b.nano / 1000 := by
  rw [le_iff]
  simp only [atMicro]
  omega

/-- Of two instants of a day the later one shows a later time. -/
theorem stamp_time_lt {a b : Instant} (sameDay : a.second / 86400 = b.second / 86400)
    (earlier : a.second < b.second ∨ a.second = b.second ∧ a.nano / 1000 < b.nano / 1000) :
    [a.stamp.hour, a.stamp.minute, a.stamp.second, a.stamp.nano / 1000] <
      [b.stamp.hour, b.stamp.minute, b.stamp.second, b.stamp.nano / 1000] := by
  have leapA : 1000000000 ≤ a.nano → a.second % 60 = 59 := a.leap
  have leapB : 1000000000 ≤ b.nano → b.second % 60 = 59 := b.leap
  have boundA : a.nano < 2 * 1000000000 := a.nano_lt
  have boundB : b.nano < 2 * 1000000000 := b.nano_lt
  obtain ⟨timeA, atA⟩ : ∃ time, (a.second % 86400).toNat = time := ⟨_, rfl⟩
  obtain ⟨timeB, atB⟩ : ∃ time, (b.second % 86400).toNat = time := ⟨_, rfl⟩
  have order : timeA < timeB ∨ timeA = timeB ∧ a.nano / 1000 < b.nano / 1000 := by omega
  have minuteA : 1000000000 ≤ a.nano → timeA % 60 = 59 := by omega
  have minuteB : 1000000000 ≤ b.nano → timeB % 60 = 59 := by omega
  clear earlier sameDay
  simp only [stamp, isLeap, nanosPerSecond, decide_eq_true_eq, atA, atB, List.cons_lt_cons_iff]
  split <;> split <;> omega

variable {a b : Instant} (yearsA : 0 ≤ a.year ∧ a.year ≤ 9999) (yearsB : 0 ≤ b.year ∧ b.year ≤ 9999)

include yearsA in
theorem microText_eq : a.microText = String.ofList (partsText stampLayout a.stamp.parts) := by
  rw [microText, a.secondText_eq yearsA]
  simp only [List.append_assoc, List.cons_append]
  rfl

include yearsA in
theorem fits_parts : List.Forall₂ FitsWidth stampLayout a.stamp.parts := by
  obtain ⟨months, days, hours, minutes, seconds⟩ := a.stamp_bounds
  have years : a.stamp.year.toNat < 10000 := by
    change a.year.toNat < 10000
    omega
  have nano : a.stamp.nano < 1000000000 := Nat.mod_lt _ (by decide)
  simp only [stampLayout, Reading.Stamp.parts, List.forall₂_cons, FitsWidth, Nat.pow_eq, Nat.reducePow]
  refine ⟨⟨by decide, years⟩, ⟨by decide, ?_⟩, ⟨by decide, ?_⟩, ⟨by decide, ?_⟩, ⟨by decide, ?_⟩, ⟨by decide, ?_⟩,
    ⟨by decide, ?_⟩, .nil⟩ <;> omega

include yearsA yearsB

/-- An instant that is later, to the microsecond, shows a later date, or a later time on the same date. -/
theorem parts_lt (earlier : a.second < b.second ∨ a.second = b.second ∧ a.nano / 1000 < b.nano / 1000) :
    a.stamp.parts < b.stamp.parts := by
  have years : 0 ≤ a.stamp.year ∧ 0 ≤ b.stamp.year := ⟨yearsA.1, yearsB.1⟩
  have days : a.second / 86400 ≤ b.second / 86400 := by omega
  rcases Int.lt_or_eq_of_le days with before | same
  · have date : a.stamp.year < b.stamp.year ∨ a.stamp.year = b.stamp.year ∧ (a.stamp.month < b.stamp.month ∨
        a.stamp.month = b.stamp.month ∧ a.stamp.day < b.stamp.day) := Date.ofDays_lt_ofDays before
    simp only [Reading.Stamp.parts, List.cons_lt_cons_iff]
    omega
  · have date : Date.ofDays (a.second / secondsPerDay) = Date.ofDays (b.second / secondsPerDay) :=
      congrArg Date.ofDays same
    have year : a.stamp.year = b.stamp.year := congrArg Date.year date
    have month : a.stamp.month = b.stamp.month := congrArg Date.month date
    have day : a.stamp.day = b.stamp.day := congrArg Date.day date
    rw [Reading.Stamp.parts, Reading.Stamp.parts, year, month, day]
    simpa only [List.cons_lt_cons_self] using stamp_time_lt same earlier

/-- The text to the microsecond of a later instant is greater. -/
theorem microText_lt_of (earlier : ¬b.atMicro ≤ a.atMicro) : a.microText < b.microText := by
  rw [not_atMicro_le_iff] at earlier
  rw [microText_eq yearsA, microText_eq yearsB, String.lt_iff, String.toList_ofList, String.toList_ofList]
  exact partsText_lt (fits_parts yearsA) (fits_parts yearsB) (parts_lt yearsA yearsB earlier)

/-- Texts to the microsecond are in the order of the instants. -/
theorem microText_lt_iff : a.microText < b.microText ↔ ¬b.atMicro ≤ a.atMicro := by
  refine ⟨fun less later => ?_, microText_lt_of yearsA yearsB⟩
  by_cases same : a.atMicro ≤ b.atMicro
  · rw [← microText_atMicro a, ← microText_atMicro b, Instant.le_antisymm same later] at less
    exact String.lt_irrefl _ less
  · exact String.lt_asymm less (microText_lt_of yearsB yearsA same)

theorem microText_inj : a.microText = b.microText ↔ a.atMicro = b.atMicro := by
  constructor
  · intro texts
    have notLess : ¬a.microText < b.microText := by
      rw [texts]
      exact String.lt_irrefl _
    have notGreater : ¬b.microText < a.microText := by
      rw [texts]
      exact String.lt_irrefl _
    rw [microText_lt_iff yearsA yearsB, not_not] at notLess
    rw [microText_lt_iff yearsB yearsA, not_not] at notGreater
    exact Instant.le_antisymm notGreater notLess
  · intro same
    rw [← microText_atMicro a, ← microText_atMicro b, same]

end Instant

end DeviceRules
