import DeviceRules.Time.Calendar
import Mathlib.Tactic.IntervalCases

/-! Counting days and naming them are inverse to each other: every number of days has a valid date, and the date leads
back to the number. Years are taken from March to February, so that the day of an era of 400 years splits into a year
and a day of that year without regard to leap days. Later dates are later days. -/
namespace DeviceRules.Date

def yearStart (year : Int) : Int := 365 * year + year / 4 - year / 100

/-- The year of an era that a day of the era lies in. -/
def yearOfEra (day : Int) : Int := (day - day / 1460 + day / 36524 - day / 146096) / 365

def ofMarch (year day : Int) : Date :=
  let monthFromMarch := (5 * day + 2) / 153
  let month := if monthFromMarch < 10 then monthFromMarch + 3 else monthFromMarch - 9
  ⟨year + (if month ≤ 2 then 1 else 0), month.toNat, (day - (153 * monthFromMarch + 2) / 5 + 1).toNat⟩

theorem ofDays_eq_ofMarch (days : Int) :
    let dayOfEra := (days + 719468) % 146097
    ofDays days = ofMarch (yearOfEra dayOfEra + (days + 719468) / 146097 * 400)
      (dayOfEra - yearStart (yearOfEra dayOfEra)) := rfl

theorem isLeap_iff {year : Int} :
    isLeap year = true ↔ year % 4 = 0 ∧ (year % 100 ≠ 0 ∨ year % 400 = 0) := by
  simp [isLeap]

/-- A day of an era lies in the year that is found for it, and a 366th day only in a year that ends with a leap day. -/
theorem yearOfEra_spec {day : Int} (first : 0 ≤ day) (last : day < 146097) :
    let year := yearOfEra day
    0 ≤ year ∧ year < 400 ∧ yearStart year ≤ day ∧
      (day ≤ yearStart year + 364 ∨ day = yearStart year + 365 ∧ isLeap (year + 1) = true) := by
  intro year
  -- Four years have 1460 days or one more, so the year is known from the quotient up to a few cases.
  have cycle : year = 4 * (day / 1460) - 1 ∨ year = 4 * (day / 1460) ∨ year = 4 * (day / 1460) + 1 ∨
      year = 4 * (day / 1460) + 2 ∨ year = 4 * (day / 1460) + 3 := by
    simp only [year, yearOfEra]
    omega
  have century : day / 36524 = 0 ∨ day / 36524 = 1 ∨ day / 36524 = 2 ∨ day / 36524 = 3 ∨ day / 36524 = 4 := by
    omega
  simp only [isLeap_iff, year, yearOfEra, yearStart] at cycle ⊢
  rcases cycle with c | c | c | c | c <;> rcases century with h | h | h | h | h <;> omega

theorem toDays_ofMarch {year day : Int} (first : 0 ≤ day) (last : day ≤ 365) :
    (ofMarch year day).toDays = year / 400 * 146097 + yearStart (year % 400) + day - 719468 := by
  obtain ⟨month, split⟩ : ∃ month, (5 * day + 2) / 153 = month := ⟨_, rfl⟩
  have least : 0 ≤ month := by omega
  have most : month < 12 := by omega
  interval_cases month <;> simp [ofMarch, toDays, yearStart, split] <;> omega

theorem isValid_ofMarch {year day : Int} (first : 0 ≤ day)
    (last : day ≤ 364 ∨ day = 365 ∧ isLeap (year + 1) = true) : (ofMarch year day).isValid = true := by
  obtain ⟨month, split⟩ : ∃ month, (5 * day + 2) / 153 = month := ⟨_, rfl⟩
  have least : 0 ≤ month := by omega
  have most : month < 12 := by omega
  -- The last month is February, whose length depends on the year.
  have february : day - 337 + 1 ≤ if isLeap (year + 1) = true then 29 else 28 := by
    rcases last with short | ⟨rfl, leap⟩
    · split <;> omega
    · simp [leap]
  interval_cases month <;> simp [ofMarch, isValid, monthLength, split] <;> omega

theorem toDays_ofDays (days : Int) : (ofDays days).toDays = days := by
  have least : 0 ≤ (days + 719468) % 146097 := by omega
  have most : (days + 719468) % 146097 < 146097 := by omega
  obtain ⟨first, last, start, inside⟩ := yearOfEra_spec least most
  rw [ofDays_eq_ofMarch, toDays_ofMarch (by omega) (by omega)]
  have era : (yearOfEra ((days + 719468) % 146097) + (days + 719468) / 146097 * 400) / 400 =
      (days + 719468) / 146097 := by omega
  have year : (yearOfEra ((days + 719468) % 146097) + (days + 719468) / 146097 * 400) % 400 =
      yearOfEra ((days + 719468) % 146097) := by omega
  rw [era, year]
  omega

theorem isValid_ofDays (days : Int) : (ofDays days).isValid = true := by
  have least : 0 ≤ (days + 719468) % 146097 := by omega
  have most : (days + 719468) % 146097 < 146097 := by omega
  obtain ⟨_, _, start, inside⟩ := yearOfEra_spec least most
  rw [ofDays_eq_ofMarch]
  refine isValid_ofMarch (by omega) (inside.imp (by omega) fun ⟨last, leap⟩ => ⟨by omega, ?_⟩)
  rw [isLeap_iff] at leap ⊢
  omega

theorem bounds_of_isValid {date : Date} (valid : date.isValid = true) : date.month ≤ 12 ∧ date.day ≤ 31 := by
  have longest : monthLength date.year date.month ≤ 31 := by
    unfold monthLength
    split
    · split <;> decide
    all_goals decide
  simp only [isValid, Bool.and_eq_true, decide_eq_true_eq] at valid
  omega

instance : LT Date :=
  ⟨fun a b => a.year < b.year ∨ a.year = b.year ∧ (a.month < b.month ∨ a.month = b.month ∧ a.day < b.day)⟩

protected theorem lt_iff {a b : Date} :
    a < b ↔ a.year < b.year ∨ a.year = b.year ∧ (a.month < b.month ∨ a.month = b.month ∧ a.day < b.day) := Iff.rfl

protected theorem lt_trichotomy (a b : Date) : a < b ∨ a = b ∨ b < a := by
  obtain ⟨y, m, d⟩ := a
  obtain ⟨y', m', d'⟩ := b
  simp only [Date.lt_iff, mk.injEq]
  omega

def marchStart (year : Int) : Int := 365 * year + year / 4 - year / 100 + year / 400

/-- The year that begins in March, and the month of it, counted from 0. -/
def marchYear (d : Date) : Int := if d.month ≤ 2 then d.year - 1 else d.year

def marchMonth (d : Date) : Int := (d.month + 9) % 12

theorem toDays_eq (d : Date) :
    d.toDays = marchStart d.marchYear + (153 * d.marchMonth + 2) / 5 + d.day - 719469 := by
  have unfolded : d.toDays = d.marchYear / 400 * 146097 + (d.marchYear % 400 * 365 + d.marchYear % 400 / 4 -
      d.marchYear % 400 / 100 + ((153 * d.marchMonth + 2) / 5 + d.day - 1)) - 719468 := rfl
  rw [unfolded, marchStart]
  omega

/-- The last day of a month comes before the first of the next, and the last day of February before the first of
March. -/
theorem le_of_isValid {d : Date} (valid : d.isValid = true) :
    1 ≤ d.day ∧ (d.marchMonth < 11 → (153 * d.marchMonth + 2) / 5 + d.day ≤ (153 * (d.marchMonth + 1) + 2) / 5) ∧
      marchStart d.marchYear + (153 * d.marchMonth + 2) / 5 + d.day ≤ marchStart (d.marchYear + 1) := by
  obtain ⟨year, month, day⟩ := d
  simp only [isValid, Bool.and_eq_true, decide_eq_true_eq] at valid
  obtain ⟨⟨⟨least, most⟩, first⟩, last⟩ := valid
  have leap : isLeap year = true ↔ year % 4 = 0 ∧ (year % 100 ≠ 0 ∨ year % 400 = 0) := isLeap_iff
  refine ⟨first, ?_⟩
  simp only [marchStart, marchYear, marchMonth]
  interval_cases month
  case «2» =>
    simp only [monthLength] at last
    cases february : isLeap year <;>
      simp only [february, if_true, if_false, Bool.false_eq_true, true_iff, false_iff] at leap last <;> omega
  all_goals
    simp only [monthLength] at last
    omega

/-- A later date is a later day. -/
theorem toDays_lt_toDays {a b : Date} (validA : a.isValid = true) (validB : b.isValid = true) (earlier : a < b) :
    a.toDays < b.toDays := by
  obtain ⟨firstA, monthA, yearA⟩ := le_of_isValid validA
  obtain ⟨firstB, monthB, yearB⟩ := le_of_isValid validB
  have months : 1 ≤ a.month ∧ a.month ≤ 12 ∧ 1 ≤ b.month ∧ b.month ≤ 12 := by
    simp only [isValid, Bool.and_eq_true, decide_eq_true_eq] at validA validB
    omega
  -- Counted from March, the dates are in the same order.
  have marches : a.marchYear < b.marchYear ∨ a.marchYear = b.marchYear ∧
      (a.marchMonth < b.marchMonth ∨ a.marchMonth = b.marchMonth ∧ a.day < b.day) := by
    rw [Date.lt_iff] at earlier
    simp only [marchYear, marchMonth]
    omega
  have bounds : 0 ≤ a.marchMonth ∧ 0 ≤ b.marchMonth ∧ b.marchMonth < 12 := by
    simp only [marchMonth]
    omega
  rw [toDays_eq, toDays_eq]
  rcases marches with earlier | ⟨same, earlier | ⟨sameMonth, earlier⟩⟩
  · have years : marchStart (a.marchYear + 1) ≤ marchStart b.marchYear := by
      simp only [marchStart]
      omega
    omega
  · have inMonth := monthA (by omega)
    rw [same]
    omega
  · rw [same, sameMonth]
    omega

theorem ofDays_lt_ofDays {a b : Int} (earlier : a < b) : ofDays a < ofDays b := by
  rcases Date.lt_trichotomy (ofDays a) (ofDays b) with before | same | after
  · exact before
  · have days := congrArg toDays same
    rw [toDays_ofDays, toDays_ofDays] at days
    omega
  · have days := toDays_lt_toDays (isValid_ofDays b) (isValid_ofDays a) after
    rw [toDays_ofDays, toDays_ofDays] at days
    omega

end DeviceRules.Date
