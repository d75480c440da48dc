import DeviceRules.Proofs.Time.Calendar
import DeviceRules.Proofs.Time.Order
import DeviceRules.Time.Format
import DeviceRules.Time.Reading

/-! An instant of the years 0 to 9999 is read back from its text. Each part of the text has a fixed number of digits,
so that the reader finds the parts one after the other; a leap second is written as second 60 and read as such. -/
namespace DeviceRules

namespace Text

theorem dropBlanks_of_head {cs : List Char} (visible : ∀ c, cs.head? = some c → isBlank c = false) :
    dropBlanks cs = cs := by
  cases cs with
  | nil => rfl
  | cons c rest => simp [dropBlanks, visible c rfl]

/-- A text that neither begins nor ends with a blank has no blank ends to cut off. -/
theorem trim_of_ends {cs : List Char} (first : ∀ c, cs.head? = some c → isBlank c = false)
    (last : ∀ c, cs.getLast? = some c → isBlank c = false) : trim cs = cs := by
  rw [trim, dropBlanks_of_head first, dropBlanks_of_head (by simpa using last), List.reverse_reverse]

theorem trim_of_visible {cs : List Char} (visible : ∀ c ∈ cs, isBlank c = false) : trim cs = cs :=
  trim_of_ends (fun c first => visible c (List.mem_of_head? first)) fun c last => visible c (List.mem_of_getLast? last)

theorem toNat_of_isDigit {c : Char} (digit : c.isDigit = true) : 48 ≤ c.toNat ∧ c.toNat ≤ 57 := by
  simpa [Char.isDigit, UInt32.le_iff_toNat_le] using digit

theorem isBlank_of_isDigit {c : Char} (digit : c.isDigit = true) : isBlank c = false := by
  have range := toNat_of_isDigit digit
  simp only [isBlank]
  grind

end Text

section Digits

variable {width n : Nat}

theorem padded_length (positive : 0 < width) (fits : n < Nat.pow 10 width) : (padded width n).length = width := by
  have short : (Nat.toDigits 10 n).length ≤ width := (Nat.length_toDigits_le_iff (by decide) positive).mpr fits
  simp only [padded, List.length_append, List.length_replicate]
  omega

theorem padded_isEmpty (positive : 0 < width) (fits : n < Nat.pow 10 width) : (padded width n).isEmpty = false := by
  rw [List.isEmpty_eq_false_iff, ← List.length_pos_iff, padded_length positive fits]
  exact positive

theorem padded_digits : ∀ c ∈ padded width n, c.isDigit = true := by
  intro c member
  rcases List.mem_append.mp member with zero | digit
  · rw [List.eq_of_mem_replicate zero]
    rfl
  · exact Nat.isDigit_of_mem_toDigits (by decide) (by decide) digit

namespace Reading

theorem value_replicate_zero (count : Nat) (rest : List Char) :
    value (List.replicate count '0' ++ rest) = value rest := by
  induction count with
  | zero => rfl
  | succ count ih => exact ih

theorem value_padded : value (padded width n) = n := by
  rw [padded, value_replicate_zero]
  exact Nat.ofDigitChars_toDigits (by decide) (by decide)

theorem takeWhile_padded {rest : List Char} (stop : rest.takeWhile Char.isDigit = []) :
    (padded width n ++ rest).takeWhile Char.isDigit = padded width n := by
  rw [List.takeWhile_append_of_pos padded_digits, stop, List.append_nil]

theorem takeWhile_padded_self : (padded width n).takeWhile Char.isDigit = padded width n := by
  simpa using takeWhile_padded (List.takeWhile_nil (p := Char.isDigit))

theorem exactly?_padded (positive : 0 < width) (fits : n < Nat.pow 10 width) (rest : List Char) :
    exactly? width (padded width n ++ rest) = some (n, rest) := by
  have length := padded_length positive fits
  simp only [exactly?, List.take_left' length, List.drop_left' length, takeWhile_padded_self, length, value_padded,
    if_true]

/-- A pair reads two digits, whatever stands behind them. -/
theorem pair?_padded (fits : n < 100) (rest : List Char) : pair? (padded 2 n ++ rest) = some (n, rest) := by
  have length : (padded 2 n).length = 2 := padded_length (by decide) fits
  have some : (padded 2 n).isEmpty = false := padded_isEmpty (by decide) fits
  have visible : Text.dropBlanks (padded 2 n ++ rest) = padded 2 n ++ rest := by
    refine Text.dropBlanks_of_head fun c head => ?_
    cases digits : padded 2 n with
    | nil => simp [digits] at length
    | cons first others =>
        rw [digits] at head
        cases head
        have digit : c ∈ padded 2 n := digits ▸ List.mem_cons_self
        exact Text.isBlank_of_isDigit (padded_digits c digit)
  simp only [pair?, visible, digits?, List.take_left' length, takeWhile_padded_self, some, value_padded,
    List.drop_left' length, length, Bool.false_eq_true, if_false]

/-- A fraction of `width` digits that some other character ends. -/
theorem fraction?_padded {rest : List Char} (positive : 0 < width) (short : width ≤ 9) (fits : n < Nat.pow 10 width)
    (stop : rest.takeWhile Char.isDigit = []) :
    fraction? ('.' :: (padded width n ++ rest)) = some (n * Nat.pow 10 (9 - width), rest) := by
  have length := padded_length positive fits
  have some : (padded width n).isEmpty = false := padded_isEmpty positive fits
  have kept : (padded width n).take 9 = padded width n := List.take_of_length_le (by omega)
  simp only [fraction?, takeWhile_padded stop, some, kept, value_padded, List.drop_left' length, length,
    Bool.false_eq_true, if_false]

end Reading

end Digits

theorem Reading.fraction?_fractionText {nano : Nat} (bounded : nano < nanosPerSecond) :
    fraction? (Instant.fractionText nano ++ ['Z']) = some (nano, ['Z']) := by
  have bounded : nano < 1000000000 := bounded
  have stop : ['Z'].takeWhile Char.isDigit = [] := rfl
  unfold Instant.fractionText
  split_ifs with whole millis micros
  · subst whole
    rfl
  · have fits : nano / 1000000 < Nat.pow 10 3 := by simp; omega
    rw [List.cons_append, fraction?_padded (by decide) (by decide) fits stop]
    simp only [Nat.reduceSub, Nat.pow_eq, Nat.reducePow]
    rw [Nat.div_mul_cancel (Nat.dvd_of_mod_eq_zero millis)]
  · have fits : nano / 1000 < Nat.pow 10 6 := by simp; omega
    rw [List.cons_append, fraction?_padded (by decide) (by decide) fits stop]
    simp only [Nat.reduceSub, Nat.pow_eq, Nat.reducePow]
    rw [Nat.div_mul_cancel (Nat.dvd_of_mod_eq_zero micros)]
  · have fits : nano < Nat.pow 10 9 := by simpa using bounded
    rw [List.cons_append, fraction?_padded (by decide) (by decide) fits stop]
    simp

/-- The strict reader takes a text apart into parts that are read one by one. -/
theorem Reading.strict?_parts {year month day hour minute second nano : Nat} {y m d h i s fraction : List Char}
    (years : ∀ rest, exactly? 4 (y ++ rest) = some (year, rest))
    (months : ∀ rest, exactly? 2 (m ++ rest) = some (month, rest))
    (days : ∀ rest, exactly? 2 (d ++ rest) = some (day, rest))
    (hours : ∀ rest, exactly? 2 (h ++ rest) = some (hour, rest))
    (minutes : ∀ rest, exactly? 2 (i ++ rest) = some (minute, rest))
    (seconds : ∀ rest, exactly? 2 (s ++ rest) = some (second, rest))
    (read : fraction? (fraction ++ ['Z']) = some (nano, ['Z'])) :
    strict? (y ++ '-' :: m ++ '-' :: d ++ 'T' :: h ++ ':' :: i ++ ':' :: s ++ fraction ++ ['Z']) =
      Stamp.instant? ⟨year, month, day, hour, minute, second, nano⟩ 0 := by
  have literal (c : Char) (rest : List Char) : literal? c (c :: rest) = some rest := if_pos rfl
  have next {α : Type} (x : α) (f : α → Option Instant) : (some x >>= f) = f x := rfl
  simp only [List.append_assoc, List.cons_append]
  -- One part after the other: simp would go through all that is still to be read at each of them.
  rw [strict?, years, next]
  dsimp only
  rw [literal, next, months, next]
  dsimp only
  rw [literal, next, days, next]
  dsimp only
  rw [if_pos (Or.inl rfl), hours, next]
  dsimp only
  rw [literal, next, minutes, next]
  dsimp only
  rw [literal, next, seconds, next]
  dsimp only
  rw [read]
  rfl

namespace Instant

def year (t : Instant) : Int := (Date.ofDays (t.second / secondsPerDay)).year

def stamp (t : Instant) : Reading.Stamp :=
  let date := Date.ofDays (t.second / secondsPerDay)
  let time := (t.second % secondsPerDay).toNat
  ⟨date.year, date.month, date.day, time / 3600, time / 60 % 60, time % 60 + (if t.isLeap then 1 else 0),
    t.nano % nanosPerSecond⟩

/-- The stamp of an instant stands for the instant. -/
theorem stamp_instant? (t : Instant) : t.stamp.instant? 0 = some t := by
  obtain ⟨day, onDay⟩ : ∃ day, t.second / 86400 = day := ⟨_, rfl⟩
  obtain ⟨time, atTime⟩ : ∃ time, (t.second % 86400).toNat = time := ⟨_, rfl⟩
  have valid := Date.isValid_ofDays day
  have hours : time / 3600 < 24 := by omega
  have minutes : time / 60 % 60 < 60 := by omega
  have seconds : time % 60 < 60 := by omega
  have whole : (Date.ofDays day).toDays * 86400 +
      ((time / 3600 * 3600 + time / 60 % 60 * 60 + time % 60 : Nat) : Int) = t.second := by
    rw [Date.toDays_ofDays]
    omega
  simp only [Reading.Stamp.instant?, stamp, onDay, atTime, valid, decide_eq_true hours, decide_eq_true minutes,
    Bool.and_self, Bool.true_and, decide_eq_true_eq, Int.sub_zero]
  cases leap : t.isLeap with
  | false =>
      have nano : t.nano % nanosPerSecond = t.nano := Nat.mod_eq_of_lt (by simpa [isLeap] using leap)
      simp only [Bool.false_eq_true, if_false, Nat.add_zero, seconds.le, if_true, seconds.ne, nano, whole, of?_self,
        Option.bind_some]
  | true =>
      have counted : 1000000000 ≤ t.nano := by simpa [isLeap] using leap
      have bounded : t.nano < 2 * 1000000000 := t.nano_lt
      have last : time % 60 = 59 := by
        have minute := t.leap counted
        omega
      have nano : t.nano % 1000000000 + 1000000000 = t.nano := by omega
      rw [last] at whole
      simp only [if_true, last, Nat.reduceAdd, le_refl, nano, whole, of?_self, Option.bind_some]

theorem stamp_bounds (t : Instant) :
    t.stamp.month ≤ 12 ∧ t.stamp.day ≤ 31 ∧ t.stamp.hour < 24 ∧ t.stamp.minute < 60 ∧ t.stamp.second ≤ 60 := by
  obtain ⟨time, atTime⟩ : ∃ time, (t.second % 86400).toNat = time := ⟨_, rfl⟩
  obtain ⟨months, days⟩ := Date.bounds_of_isValid (Date.isValid_ofDays (t.second / secondsPerDay))
  have within : time < 86400 := by omega
  simp only [stamp, atTime]
  refine ⟨months, days, by omega, by omega, ?_⟩
  split <;> omega

/-- The text of an instant up to its second shows the parts of its stamp. -/
theorem secondText_eq (t : Instant) (inYears : 0 ≤ t.year ∧ t.year ≤ 9999) :
    t.secondText = padded 4 t.year.toNat ++ '-' :: padded 2 t.stamp.month ++ '-' :: padded 2 t.stamp.day ++
      'T' :: padded 2 t.stamp.hour ++ ':' :: padded 2 t.stamp.minute ++ ':' :: padded 2 t.stamp.second := by
  have year : yearText t.year = padded 4 t.year.toNat := if_pos inYears
  rw [← year]
  rfl

theorem strict?_secondText (t : Instant) (inYears : 0 ≤ t.year ∧ t.year ≤ 9999) {fraction : List Char} {nano : Nat}
    (read : Reading.fraction? (fraction ++ ['Z']) = some (nano, ['Z'])) :
    Reading.strict? (t.secondText ++ fraction ++ ['Z']) = { t.stamp with nano }.instant? 0 := by
  have bounds := t.stamp_bounds
  have years : t.year.toNat < Nat.pow 10 4 := by simp; omega
  have months : t.stamp.month < Nat.pow 10 2 := by simp; omega
  have days : t.stamp.day < Nat.pow 10 2 := by simp; omega
  have hours : t.stamp.hour < Nat.pow 10 2 := by simp; omega
  have minutes : t.stamp.minute < Nat.pow 10 2 := by simp; omega
  have seconds : t.stamp.second < Nat.pow 10 2 := by simp; omega
  have year : (t.year.toNat : Int) = t.stamp.year := Int.toNat_of_nonneg inYears.1
  have four : 0 < 4 := by decide
  have two : 0 < 2 := by decide
  rw [t.secondText_eq inYears, Reading.strict?_parts (Reading.exactly?_padded four years)
    (Reading.exactly?_padded two months) (Reading.exactly?_padded two days) (Reading.exactly?_padded two hours)
    (Reading.exactly?_padded two minutes) (Reading.exactly?_padded two seconds) read, year]

/-- The text of an instant begins with a digit of its year. -/
theorem secondText_head (t : Instant) (inYears : 0 ≤ t.year ∧ t.year ≤ 9999) :
    ∃ digit rest, t.secondText = digit :: rest ∧ digit.isDigit = true := by
  have length : (padded 4 t.year.toNat).length = 4 := padded_length (by decide) (by simp; omega)
  cases digits : padded 4 t.year.toNat with
  | nil => simp [digits] at length
  | cons digit rest =>
      have visible : digit.isDigit = true := padded_digits digit (by rw [digits]; exact List.mem_cons_self)
      simp only [t.secondText_eq inYears, digits, List.cons_append, List.cons.injEq]
      exact ⟨digit, _, ⟨rfl, rfl⟩, visible⟩

/-- Whatever fraction stands behind the second, a text is read back as what it shows. -/
theorem ofText?_secondText (t : Instant) (inYears : 0 ≤ t.year ∧ t.year ≤ 9999) {fraction : List Char} {nano : Nat}
    (read : Reading.fraction? (fraction ++ ['Z']) = some (nano, ['Z'])) {shown : Instant}
    (shows : { t.stamp with nano }.instant? 0 = some shown) :
    ofText? (String.ofList (t.secondText ++ fraction ++ ['Z'])) = some shown := by
  obtain ⟨digit, rest, head, visible⟩ := t.secondText_head inYears
  have trimmed : Text.trim (t.secondText ++ fraction ++ ['Z']) = t.secondText ++ fraction ++ ['Z'] := by
    apply Text.trim_of_ends
    · intro c first
      simp only [head, List.cons_append, List.head?_cons, Option.some.injEq] at first
      exact first ▸ Text.isBlank_of_isDigit visible
    · intro c last
      simp only [List.getLast?_append, List.getLast?_singleton, Option.some_or, Option.some.injEq] at last
      exact last ▸ rfl
  rw [ofText?, String.toList_ofList, trimmed]
  simp only [t.strict?_secondText inYears read, shows]
  rfl

/-- An instant of the years 0 to 9999 is read back from its text. -/
theorem ofText?_text (t : Instant) (inYears : 0 ≤ t.year ∧ t.year ≤ 9999) : ofText? t.text = some t := by
  exact t.ofText?_secondText inYears (Reading.fraction?_fractionText (Nat.mod_lt _ (by decide))) t.stamp_instant?

end Instant

end DeviceRules
