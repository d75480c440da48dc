import DeviceRules.Decimal.Form
import DeviceRules.Json.Reader
import DeviceRules.Proofs.Decimal.Rounding

/-! The digits of a double as an upper bound. They lie within half a unit in the last place above the double, so what
they stand for is read as a finite double again: by the bound on its roundings for all but the very largest, and by
computing for those. -/
namespace DeviceRules.Decimal

open Float.Model Float.Model.UnpackedFloat

theorem ten_zpow_pos (e : ℤ) : (0 : ℚ) < 10 ^ e := zpow_pos (by norm_num) e

theorem width_pos (n : Nat) : 0 < width n := Nat.length_toDigits_pos

theorem lt_ten_pow_width (n : Nat) : n < 10 ^ width n :=
  (Nat.length_toDigits_le_iff (by norm_num) (width_pos n)).mp le_rfl

theorem ten_pow_le_of_width {n : Nat} (nonzero : n ≠ 0) : 10 ^ (width n - 1) ≤ n := by
  by_contra less
  by_cases single : width n = 1
  · rw [single] at less
    omega
  · have positive := width_pos n
    have shorter := (Nat.length_toDigits_le_iff (by norm_num) (by omega)).mpr (Nat.lt_of_not_le less)
    change width n ≤ width n - 1 at shorter
    omega

theorem atLeast_iff (value unit : Nat) (e : Int) :
    (if 0 ≤ e then decide (unit * Nat.pow 10 e.toNat ≤ value) else decide (unit ≤ value * Nat.pow 10 (-e).toNat)) =
      true ↔ (unit : ℚ) * 10 ^ e ≤ value := by
  by_cases nonneg : 0 ≤ e
  · obtain ⟨n, rfl⟩ := Int.eq_ofNat_of_zero_le nonneg
    simp only [if_pos nonneg, decide_eq_true_eq, Int.toNat_natCast, zpow_natCast]
    exact_mod_cast Iff.rfl
  · obtain ⟨n, rfl⟩ : ∃ n : Nat, e = -(n : Int) := ⟨(-e).toNat, by omega⟩
    simp only [if_neg nonneg, decide_eq_true_eq, neg_neg, Int.toNat_natCast, zpow_neg, zpow_natCast]
    rw [← div_eq_mul_inv, div_le_iff₀ (by positivity)]
    exact_mod_cast Iff.rfl

/-- The magnitude is large enough. -/
theorem value_lt_magnitude {i : Interval} (nonzero : i.unit ≠ 0) : (i.value : ℚ) < i.unit * 10 ^ magnitude i := by
  unfold magnitude
  simp only [atLeast_iff]
  split
  case isTrue reached =>
    have split : (width i.value : Int) - width i.unit + 1 = width i.value - (width i.unit - 1 : Nat) := by
      have positive := width_pos i.unit
      omega
    have unit : (10 : ℚ) ^ (width i.unit - 1) ≤ i.unit := by exact_mod_cast ten_pow_le_of_width nonzero
    calc (i.value : ℚ)
        < 10 ^ width i.value := by exact_mod_cast lt_ten_pow_width i.value
      _ = 10 ^ (width i.unit - 1) * 10 ^ ((width i.value : Int) - width i.unit + 1) := by
          rw [split, zpow_sub₀ (by norm_num), zpow_natCast, zpow_natCast, mul_div_cancel₀ _ (by positivity)]
      _ ≤ i.unit * 10 ^ ((width i.value : Int) - width i.unit + 1) :=
          mul_le_mul_of_nonneg_right unit (ten_zpow_pos _).le
  case isFalse above => exact not_le.mp above

def Digits.value (d : Digits) : ℚ := d.digits * 10 ^ d.exponent

theorem of_nearer_first (inside : Nat → Bool) {downFirst : Bool} {down up k : Nat}
    (hit : (if downFirst then if inside down then some down else if inside up then some up else none
      else if inside up then some up else if inside down then some down else none) = some k) : inside k = true := by
  split_ifs at hit <;> obtain rfl := Option.some.inj hit <;> assumption

def isBetween (closed : Bool) (low high p : Nat) : Bool :=
  if closed then low ≤ p && p ≤ high else low < p && p < high

theorem le_of_isBetween {closed : Bool} {low high p : Nat} (between : isBetween closed low high p = true) :
    p ≤ high := by
  unfold isBetween at between
  split_ifs at between <;> simp only [Bool.and_eq_true, decide_eq_true_eq] at between
  · exact between.2
  · exact between.2.le

theorem gridHit_le {tie : Tie} {i : Interval} {e : Int} {k : Nat} (hit : gridHit tie i e = some k) :
    (k : ℚ) * 10 ^ e * i.unit ≤ i.high := by
  unfold gridHit at hit
  by_cases nonneg : 0 ≤ e
  · have amount : ((e.natAbs : Nat) : Int) = e := Int.natAbs_of_nonneg nonneg
    simp only [if_pos nonneg] at hit
    have le := le_of_isBetween (of_nearer_first (fun k =>
      isBetween i.closed i.low i.high (k * (i.unit * 10 ^ e.natAbs))) hit)
    rw [← amount, zpow_natCast]
    calc (k : ℚ) * 10 ^ e.natAbs * i.unit = (k * (i.unit * 10 ^ e.natAbs) : Nat) := by push_cast; ring
      _ ≤ i.high := by exact_mod_cast le
  · have amount : -((e.natAbs : Nat) : Int) = e := by omega
    simp only [if_neg nonneg] at hit
    have le := le_of_isBetween (of_nearer_first (fun k =>
      isBetween i.closed (i.low * 10 ^ e.natAbs) (i.high * 10 ^ e.natAbs) (k * i.unit)) hit)
    rw [← amount, zpow_neg, zpow_natCast, ← div_eq_mul_inv, div_mul_eq_mul_div, div_le_iff₀ (by positivity)]
    exact_mod_cast le

/-- What is found lies below the upper end, on one of the grids that are tried. -/
theorem firstHit_le (tie : Tie) (i : Interval) (e : Int) (places : Nat) :
    let found := firstHit tie i e places
    found.digits = 0 ∨ found.value * i.unit ≤ i.high ∧ e - places < found.exponent := by
  induction places generalizing e with
  | zero => exact .inl rfl
  | succ places ih =>
      unfold firstHit
      cases hit : gridHit tie i e with
      | some k => exact .inr ⟨gridHit_le hit, by simp only; omega⟩
      | none =>
          refine (ih (e - 1)).imp_right fun ⟨le, grid⟩ => ⟨le, ?_⟩
          push_cast
          omega

theorem strip_go_spec (digits : Nat) (exponent : Int) (fuel : Nat) :
    let stripped := Digits.strip.go digits exponent fuel
    stripped.value = digits * 10 ^ exponent ∧ stripped.digits ≤ digits ∧ exponent ≤ stripped.exponent := by
  induction fuel generalizing digits exponent with
  | zero => exact ⟨rfl, le_rfl, le_rfl⟩
  | succ fuel ih =>
      unfold Digits.strip.go
      split
      case isTrue zero =>
        obtain ⟨value, smaller, larger⟩ := ih (digits / 10) (exponent + 1)
        have whole : digits = digits / 10 * 10 := by omega
        refine ⟨?_, by omega, by omega⟩
        rw [value, zpow_add_one₀ (by norm_num)]
        nth_rewrite 2 [whole]
        push_cast
        ring
      case isFalse => exact ⟨rfl, le_rfl, le_rfl⟩

theorem Digits.strip_spec (d : Digits) :
    d.strip.value = d.value ∧ d.strip.digits ≤ d.digits ∧ d.exponent ≤ d.strip.exponent :=
  strip_go_spec d.digits d.exponent (width d.digits)

section Ends

variable (d : Dyadic)

/-- A power of two as the quotient of the two powers in whole numbers. -/
theorem two_zpow_eq (e : Int) :
    (2 : ℚ) ^ e * (if 0 ≤ e then 1 else 1 <<< (-e).toNat : Nat) = (if 0 ≤ e then 1 <<< e.toNat else 1 : Nat) := by
  by_cases nonneg : 0 ≤ e
  · obtain ⟨n, rfl⟩ := Int.eq_ofNat_of_zero_le nonneg
    simp only [if_pos nonneg, Int.toNat_natCast, zpow_natCast, Nat.one_shiftLeft]
    push_cast
    ring
  · obtain ⟨n, rfl⟩ : ∃ n : Nat, e = -(n : Int) := ⟨(-e).toNat, by omega⟩
    simp only [if_neg nonneg, neg_neg, Int.toNat_natCast, zpow_neg, zpow_natCast, Nat.one_shiftLeft]
    push_cast
    exact inv_mul_cancel₀ (by positivity)

theorem Interval.unit_ne_zero : (ofDyadic d).unit ≠ 0 := by
  unfold ofDyadic
  split_ifs <;> simp only [Nat.one_shiftLeft, ne_eq, mul_eq_zero] <;> simp

theorem Interval.value_ofDyadic :
    ((ofDyadic d).value : ℚ) = d.mantissa * 2 ^ d.exponent * (ofDyadic d).unit := by
  have power := two_zpow_eq d.exponent
  simp only [ofDyadic, Nat.cast_mul, ← power]
  ring

theorem Interval.high_ofDyadic :
    ((ofDyadic d).high : ℚ) = (d.mantissa + 1 / 2) * 2 ^ d.exponent * (ofDyadic d).unit := by
  have power := two_zpow_eq d.exponent
  simp only [ofDyadic, Nat.cast_mul, Nat.cast_add, ← power]
  push_cast
  ring

end Ends

theorem Dyadic.ofFloat_bounds {x : Float} (finite : x.isFinite = true) :
    (ofFloat x).mantissa < 2 ^ 53 ∧ (ofFloat x).exponent ≤ 971 := by
  have biased : x.toBits.toNat / implicitBit % 2048 ≠ 2047 := by
    intro top
    have exponent : @unpackExponent Format.binary64 x.toBits.toBitVec = -1#11 := by
      apply BitVec.eq_of_toNat_eq
      simp only [unpackExponent, BitVec.toNat_cast, BitVec.extractLsb_toNat]
      change x.toBits.toNat >>> 52 % 2048 = 2047
      rw [Nat.shiftRight_eq_div_pow]
      exact top
    have infinite : x.isFinite = false := by
      change (UnpackedFloat.unpack Format.binary64 x.toBits.toBitVec).isFinite = false
      unfold UnpackedFloat.unpack
      dsimp only
      rw [if_pos exponent]
      split <;> rfl
    exact Bool.false_ne_true (infinite.symm.trans finite)
  have implicit : implicitBit = 2 ^ 52 := rfl
  have fraction : x.toBits.toNat % implicitBit < implicitBit := Nat.mod_lt _ (by decide)
  have range : x.toBits.toNat / implicitBit % 2048 < 2048 := Nat.mod_lt _ (by decide)
  unfold ofFloat
  simp only
  split
  all_goals
    constructor
    · simp only
      omega
    · simp only
      omega

/-- The digits that are written for a double that is not zero. -/
def written (d : Dyadic) : Digits :=
  (firstHit .even (Interval.ofDyadic d) (magnitude (Interval.ofDyadic d) - 1) 18).strip

section Written

variable {d : Dyadic}

theorem unit_pos : (0 : ℚ) < (Interval.ofDyadic d).unit := by
  exact_mod_cast Nat.pos_of_ne_zero (Interval.unit_ne_zero d)

theorem written_le (some : (written d).digits ≠ 0) : (written d).value ≤ (d.mantissa + 1 / 2) * 2 ^ d.exponent := by
  obtain ⟨value, smaller, -⟩ := Digits.strip_spec
    (firstHit .even (Interval.ofDyadic d) (magnitude (Interval.ofDyadic d) - 1) 18)
  obtain zero | ⟨le, -⟩ := firstHit_le .even (Interval.ofDyadic d) (magnitude (Interval.ofDyadic d) - 1) 18
  · exact absurd (Nat.le_zero.mp (zero ▸ smaller)) some
  · rw [Interval.high_ofDyadic] at le
    exact value.trans_le (le_of_mul_le_mul_right le unit_pos)

theorem written_digits_lt (nonzero : d.mantissa ≠ 0) : (written d).digits < 2 ^ 64 := by
  obtain ⟨-, smaller, -⟩ := Digits.strip_spec
    (firstHit .even (Interval.ofDyadic d) (magnitude (Interval.ofDyadic d) - 1) 18)
  refine smaller.trans_lt ?_
  have spec := firstHit_le .even (Interval.ofDyadic d) (magnitude (Interval.ofDyadic d) - 1) 18
  generalize firstHit .even (Interval.ofDyadic d) (magnitude (Interval.ofDyadic d) - 1) 18 = found at spec
  obtain zero | ⟨le, grid⟩ := spec
  · omega
  · have above := value_lt_magnitude (Interval.unit_ne_zero d)
    generalize magnitude (Interval.ofDyadic d) = top at above grid
    rw [Interval.value_ofDyadic] at above
    rw [Interval.high_ofDyadic] at le
    have whole : (1 : ℚ) ≤ d.mantissa := by exact_mod_cast Nat.pos_of_ne_zero nonzero
    have doubled : found.value < 2 * 10 ^ top := by
      have value := le_of_mul_le_mul_right le unit_pos
      have below : d.mantissa * (2 : ℚ) ^ d.exponent < 10 ^ top :=
        lt_of_mul_lt_mul_right (above.trans_eq (mul_comm _ _)) unit_pos.le
      have power := Double.two_zpow_pos d.exponent
      nlinarith
    have power : (10 : ℚ) ^ top ≤ 10 ^ 18 * 10 ^ found.exponent := by
      rw [← zpow_natCast, ← zpow_add₀ (by norm_num)]
      exact zpow_le_zpow_right₀ (by norm_num) (by omega)
    have scaled : (found.digits : ℚ) * 10 ^ found.exponent < 2 * 10 ^ 18 * 10 ^ found.exponent := by
      change found.value < _
      linarith
    have small : (found.digits : ℚ) < 2 * 10 ^ 18 := lt_of_mul_lt_mul_right scaled (ten_zpow_pos _).le
    have short : found.digits < 2 * 10 ^ 18 := by exact_mod_cast small
    omega

end Written

theorem limit_lt : Double.limit < 10 ^ 309 := by
  have power : 2 ^ 53 * 2 ^ 971 < 10 ^ 309 := by decide +kernel
  calc Double.limit < 2 ^ 53 * 2 ^ (971 : ℤ) :=
        mul_lt_mul_of_pos_right (by norm_num) (Double.two_zpow_pos 971)
    _ = (2 ^ 53 * 2 ^ 971 : Nat) := by
        rw [Nat.cast_mul, Nat.cast_pow, Nat.cast_pow]
        rfl
    _ < (10 ^ 309 : Nat) := Nat.cast_lt.mpr power
    _ = 10 ^ 309 := Nat.cast_pow 10 309

theorem isSome_toFloat? {s : Json.Scaled}
    (small : 0 ≤ s.exponent → s.significand * 10 ^ s.exponent * (1 + Double.ulp) ^ 5 < Double.limit) :
    s.toFloat?.isSome = true := by
  obtain ⟨n, e⟩ := s
  by_cases zero : n = 0
  · simp only [Json.Scaled.toFloat?, if_pos zero, Option.isSome_some]
  by_cases negative : 0 ≤ e
  · obtain ⟨e, rfl⟩ := Int.eq_ofNat_of_zero_le negative
    have small : (n : ℚ) * 10 ^ e * (1 + Double.ulp) ^ 5 < Double.limit := small negative
    have most : e ≤ 308 := by
      by_contra above
      have whole : (1 : ℚ) ≤ n := by exact_mod_cast Nat.pos_of_ne_zero zero
      have power : (10 : ℚ) ^ 309 ≤ 10 ^ e := pow_le_pow_right₀ (by norm_num) (by omega)
      have rounding : (1 : ℚ) ≤ (1 + Double.ulp) ^ 5 := one_le_pow₀ (by norm_num [Double.ulp])
      refine absurd limit_lt (not_lt.mpr ?_)
      calc (10 : ℚ) ^ 309 ≤ 10 ^ e := power
        _ ≤ n * 10 ^ e := le_mul_of_one_le_left (by positivity) whole
        _ ≤ n * 10 ^ e * (1 + Double.ulp) ^ 5 := le_mul_of_one_le_right (by positivity) rounding
        _ ≤ Double.limit := small.le
    have finite := Double.isFinite_scaled zero (by omega) small
    simp only [Json.Scaled.toFloat?, if_neg zero, if_neg (by omega : ¬(308 : Int) < e), if_pos negative,
      Int.toNat_natCast, Json.powerOfTen, Json.finite?, finite, if_true, Option.isSome_some]
  · simp only [Json.Scaled.toFloat?, if_neg zero, if_neg negative, if_neg (by omega : ¬(308 : Int) < e)]
    split_ifs <;> rfl

/-- The largest doubles, which leave no room for another rounding, read back all the same. -/
theorem isSome_toFloat?_largest : ∀ j < 12,
    let digits := written ⟨2 ^ 53 - 1 - j, 971⟩
    (Json.Scaled.mk digits.digits digits.exponent).toFloat?.isSome = true := by
  decide +kernel

theorem isSome_toFloat?_written {d : Dyadic} (narrow : d.mantissa < 2 ^ 53) (most : d.exponent ≤ 971) :
    (Json.Scaled.mk (written d).digits (written d).exponent).toFloat?.isSome = true := by
  by_cases largest : d.exponent = 971 ∧ 2 ^ 53 - 12 ≤ d.mantissa
  · have place : d = ⟨2 ^ 53 - 1 - (2 ^ 53 - 1 - d.mantissa), 971⟩ := by
      rw [← largest.1, Nat.sub_sub_self (Nat.le_sub_one_of_lt narrow)]
    rw [place]
    exact isSome_toFloat?_largest (2 ^ 53 - 1 - d.mantissa) (by omega)
  · apply isSome_toFloat?
    intro _
    change (written d).value * _ < _
    have clear : (written d).value ≤ (2 ^ 53 - 12) * 2 ^ (971 : ℤ) := by
      by_cases zero : (written d).digits = 0
      · rw [Digits.value, zero, Nat.cast_zero, zero_mul]
        exact mul_nonneg (by norm_num) (Double.two_zpow_pos 971).le
      · refine (written_le zero).trans ?_
        have power := Double.two_zpow_pos 971
        by_cases top : d.exponent = 971
        · have mantissa : (d.mantissa + 13 : ℚ) ≤ 2 ^ 53 := by
            have room : d.mantissa + 13 ≤ 2 ^ 53 := by omega
            exact_mod_cast room
          rw [top]
          exact mul_le_mul_of_nonneg_right (by linarith) power.le
        · have mantissa : (d.mantissa + 1 : ℚ) ≤ 2 ^ 53 := by exact_mod_cast narrow
          have half : (2 : ℚ) ^ d.exponent * 2 ≤ 2 ^ (971 : ℤ) := by
            rw [← zpow_add_one₀ two_ne_zero]
            exact zpow_le_zpow_right₀ one_le_two (by omega)
          calc (d.mantissa + 1 / 2) * (2 : ℚ) ^ d.exponent
              ≤ 2 ^ 53 * 2 ^ d.exponent :=
                mul_le_mul_of_nonneg_right (by linarith) (Double.two_zpow_pos _).le
            _ = 2 ^ 52 * (2 ^ d.exponent * 2) := by ring
            _ ≤ 2 ^ 52 * 2 ^ (971 : ℤ) := mul_le_mul_of_nonneg_left half (by norm_num)
            _ ≤ (2 ^ 53 - 12) * 2 ^ (971 : ℤ) := mul_le_mul_of_nonneg_right (by norm_num) power.le
    calc (written d).value * (1 + Double.ulp) ^ 5
        ≤ (2 ^ 53 - 12) * 2 ^ (971 : ℤ) * (1 + Double.ulp) ^ 5 :=
          mul_le_mul_of_nonneg_right clear (by norm_num [Double.ulp])
      _ = (2 ^ 53 - 12) * (1 + Double.ulp) ^ 5 * 2 ^ (971 : ℤ) := mul_right_comm _ _ _
      _ < Double.limit := mul_lt_mul_of_pos_right (by norm_num [Double.ulp]) (Double.two_zpow_pos 971)

/-- The digits that are written for a finite double fit 64 bits, and what they stand for is read as a finite double. -/
theorem shortest_spec {x : Float} (finite : x.isFinite = true) :
    let digits := (shortest .even x).strip
    digits.digits < 2 ^ 64 ∧ (Json.Scaled.mk digits.digits digits.exponent).toFloat?.isSome = true := by
  obtain ⟨narrow, most⟩ := Dyadic.ofFloat_bounds finite
  intro digits
  by_cases zero : (Dyadic.ofFloat x).mantissa = 0
  · have nothing : digits = ⟨0, 0⟩ := by
      simp only [digits, shortest, if_pos zero]
      rfl
    rw [nothing]
    exact ⟨by norm_num, rfl⟩
  · have some : digits = written (Dyadic.ofFloat x) := by
      simp only [digits, shortest, if_neg zero, written]
    rw [some]
    exact ⟨written_digits_lt zero, isSome_toFloat?_written narrow most⟩

end DeviceRules.Decimal
