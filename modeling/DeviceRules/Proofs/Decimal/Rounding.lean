import DeviceRules.Proofs.Decimal.Double

/-! Rounding to a double from above. A result is never larger than what is rounded by more than one unit in its last
place, so that a product that stays clear of the largest double by a few units does not overflow. -/
namespace DeviceRules.Double

open Float.Model Float.Model.UnpackedFloat

structure Normal (mantissa : Nat) (exponent : Int) : Prop where
  wide : 2 ^ 52 ≤ mantissa
  narrow : mantissa < 2 ^ 53
  least : -52 ≤ exponent
  most : exponent ≤ 971

theorem shiftRight_mantissa (em : ExtendedMantissa) (k : Nat) : (em >>> k).mantissa = em.mantissa / 2 ^ k := by
  induction k with
  | zero => exact (Nat.div_one _).symm
  | succ k ih =>
      have step : (em >>> (k + 1)).mantissa = (em >>> k).mantissa / 2 := rfl
      rw [step, ih, Nat.div_div_eq_div_mul, pow_succ]

theorem roundedMantissa_bounds (em : ExtendedMantissa) :
    em.mantissa ≤ em.roundedMantissa ∧ em.roundedMantissa ≤ em.mantissa + 1 := by
  obtain ⟨mantissa, round, sticky⟩ := em
  cases round <;> cases sticky <;>
    simp only [ExtendedMantissa.roundedMantissa, ExtendedMantissa.accuracy, Accuracy.roundToNearestEven]
  all_goals omega

/-- The first shift leaves 53 bits. -/
theorem shift_to_normal {m k : Nat} {e : Int} (bits : m.log2 = 52 + k) (least : -1074 ≤ e + k) :
    let first := shiftToTargetExponent Format.binary64 m e .exact
    first.2 = e + k ∧ first.1.mantissa = m / 2 ^ k := by
  have target : Format.binary64.targetExponent (totalExponent m e) = e + k := by
    have width : Format.binary64.mantissaBits = 53 := rfl
    have bottom : Format.binary64.minExponent = -1074 := rfl
    simp only [Format.targetExponent, totalExponent, bits, width, bottom]
    omega
  have amount : (e + k - e).toNat = k := by omega
  constructor
  · simp only [shiftToTargetExponent, target, shiftToExponent, amount]
  · simp only [shiftToTargetExponent, target, shiftToExponent, amount, shiftRight_mantissa]
    rfl

/-- The second shift only takes back a carry. -/
theorem shift_again {r : Nat} {e : Int} (wide : 2 ^ 52 ≤ r) (bound : r ≤ 2 ^ 53) (least : -1074 ≤ e) :
    let last := shiftToTargetExponent Format.binary64 r e .exact
    last.1.mantissa = (if r < 2 ^ 53 then r else 2 ^ 52) ∧ last.2 = (if r < 2 ^ 53 then e else e + 1) := by
  by_cases narrow : r < 2 ^ 53
  · have bits : r.log2 = 52 + 0 := (Nat.log2_eq_iff (by omega)).mpr ⟨wide, narrow⟩
    obtain ⟨exponent, mantissa⟩ := shift_to_normal bits (e := e) (by omega)
    simp only [if_pos narrow]
    exact ⟨by simpa using mantissa, by simpa using exponent⟩
  · have carry : r = 2 ^ 53 := by omega
    have bits : r.log2 = 52 + 1 := by rw [carry, Nat.log2_two_pow]
    obtain ⟨exponent, mantissa⟩ := shift_to_normal bits (e := e) (by omega)
    simp only [if_neg narrow]
    refine ⟨?_, exponent⟩
    rw [mantissa, carry]
    rfl

def value (mantissa : Nat) (exponent : Int) : ℚ := mantissa * 2 ^ exponent

/-- The part of a number that one rounding may add to it. -/
def ulp : ℚ := 1 / 2 ^ 52

/-- From here on a number may be rounded to infinity. -/
def limit : ℚ := (2 ^ 53 - 1) * 2 ^ (971 : ℤ)

theorem two_zpow_pos (e : ℤ) : (0 : ℚ) < 2 ^ e := zpow_pos (by norm_num) e

theorem value_shift (m k : Nat) (e : Int) : value (m * 2 ^ k) e = value m (e + k) := by
  simp only [value, Nat.cast_mul, Nat.cast_pow, Nat.cast_ofNat, zpow_add₀ (two_ne_zero : (2 : ℚ) ≠ 0), zpow_natCast]
  ring

theorem value_mono {m n : Nat} (le : m ≤ n) (e : Int) : value m e ≤ value n e :=
  mul_le_mul_of_nonneg_right (by exact_mod_cast le) (two_zpow_pos e).le

theorem ne_zero_of_bits {m k : Nat} (bits : m.log2 = 52 + k) : m ≠ 0 := by
  rintro rfl
  rw [Nat.log2_zero] at bits
  omega

theorem round_bounds {m k r : Nat} {e : Int} (bits : m.log2 = 52 + k) (le : r ≤ m / 2 ^ k + 1) :
    value r (e + k) ≤ value m e * (1 + ulp) := by
  have nonzero := ne_zero_of_bits bits
  have whole : m / 2 ^ k * 2 ^ k ≤ m := Nat.div_mul_le_self m (2 ^ k)
  have leading : 2 ^ 52 * 2 ^ k ≤ m := by
    rw [← pow_add, ← bits]
    exact Nat.log2_self_le nonzero
  have floor : value (m / 2 ^ k) (e + k) ≤ value m e := by
    rw [← value_shift]
    exact value_mono whole e
  have unit : 2 ^ 52 * value 1 (e + k) ≤ value m e := by
    have shifted : value (2 ^ 52) (e + k) ≤ value m e := by
      rw [← value_shift]
      exact value_mono leading e
    simpa only [value, Nat.cast_pow, Nat.cast_ofNat, Nat.cast_one, one_mul] using shifted
  calc value r (e + k)
      ≤ value (m / 2 ^ k + 1) (e + k) := value_mono le _
    _ = value (m / 2 ^ k) (e + k) + value 1 (e + k) := by simp only [value]; push_cast; ring
    _ ≤ value m e * (1 + ulp) := by
        simp only [ulp]
        linarith

/-- The mantissa of the first shift. -/
theorem shifted_range {m k : Nat} (bits : m.log2 = 52 + k) : 2 ^ 52 ≤ m / 2 ^ k ∧ m / 2 ^ k < 2 ^ 53 := by
  constructor
  · rw [Nat.le_div_iff_mul_le (Nat.two_pow_pos k), ← pow_add, ← bits]
    exact Nat.log2_self_le (ne_zero_of_bits bits)
  · rw [Nat.div_lt_iff_lt_mul (Nat.two_pow_pos k), ← pow_add]
    have above := Nat.lt_log2_self (n := m)
    rwa [bits, show 52 + k + 1 = 53 + k by omega] at above

/-- A rounded number below the limit has an exponent in range, also after a carry. -/
theorem exponent_le {m r : Nat} {e : Int} (wide : 2 ^ 52 ≤ m) (small : value m e < limit) (le : r ≤ m + 1) :
    e ≤ 971 ∧ (¬r < 2 ^ 53 → e + 1 ≤ 971) := by
  have most : e ≤ 971 := by
    have leading : (2 : ℚ) ^ (52 + e) < 2 ^ (1024 : ℤ) := by
      calc (2 : ℚ) ^ (52 + e)
          = value (2 ^ 52) e := by
            rw [value, zpow_add₀ two_ne_zero]
            norm_num
        _ ≤ value m e := value_mono wide e
        _ < limit := small
        _ < 2 ^ 53 * 2 ^ (971 : ℤ) := mul_lt_mul_of_pos_right (by norm_num) (two_zpow_pos 971)
        _ = 2 ^ (1024 : ℤ) := by
            rw [← zpow_natCast, ← zpow_add₀ two_ne_zero]
            rfl
    have exponents := (zpow_lt_zpow_iff_right₀ (by norm_num : (1 : ℚ) < 2)).mp leading
    omega
  refine ⟨most, fun carry => ?_⟩
  by_contra last
  have top : e = 971 := by omega
  rw [top] at small
  have below : (m : ℚ) < 2 ^ 53 - 1 := lt_of_mul_lt_mul_right small (two_zpow_pos 971).le
  have short : ((m + 1 : Nat) : ℚ) < (2 ^ 53 : Nat) := by
    push_cast
    linarith
  have : m + 1 < 2 ^ 53 := by exact_mod_cast short
  omega

theorem round_normal (sign : Sign) {m k : Nat} {e : Int} (bits : m.log2 = 52 + k) (least : -52 ≤ e + k)
    (small : value m e < limit) :
    ∃ r q positive, roundWithAccuracy Format.binary64 sign m e .exact = .finite sign r q positive ∧ Normal r q ∧
      value r q ≤ value m e * (1 + ulp) := by
  obtain ⟨exponent, mantissa⟩ := shift_to_normal bits (e := e) (by omega)
  have rounded := roundedMantissa_bounds (shiftToTargetExponent Format.binary64 m e .exact).1
  generalize roundsTo : (shiftToTargetExponent Format.binary64 m e .exact).1.roundedMantissa = r at rounded
  rw [mantissa] at rounded
  have range := shifted_range bits
  have floor : value (m / 2 ^ k) (e + k) < limit := by
    rw [← value_shift]
    exact (value_mono (Nat.div_mul_le_self m (2 ^ k)) e).trans_lt small
  obtain ⟨most, carries⟩ := exponent_le range.1 floor rounded.2
  obtain ⟨lastMantissa, lastExponent⟩ :=
    shift_again (e := e + k) (range.1.trans rounded.1) (by omega) (by omega)
  have bound := round_bounds bits rounded.2 (e := e)
  have result : roundWithAccuracy Format.binary64 sign m e .exact =
      if h : (if r < 2 ^ 53 then r else 2 ^ 52) = 0 then .zero sign
      else .finite sign (if r < 2 ^ 53 then r else 2 ^ 52) (if r < 2 ^ 53 then e + k else e + k + 1)
        (Nat.pos_of_ne_zero h) := by
    unfold roundWithAccuracy
    simp only [roundsTo, exponent, lastMantissa, lastExponent]
  by_cases narrow : r < 2 ^ 53
  · simp only [if_pos narrow] at result
    have wide := range.1.trans rounded.1
    rw [dif_neg (by omega)] at result
    exact ⟨r, e + k, _, result, ⟨wide, narrow, least, most⟩, bound⟩
  · simp only [if_neg narrow] at result
    rw [dif_neg (by norm_num)] at result
    refine ⟨2 ^ 52, e + k + 1, _, result, ⟨le_rfl, by norm_num, by omega, carries narrow⟩, ?_⟩
    have carry : r = 2 ^ 52 * 2 ^ 1 := by omega
    rw [carry, value_shift] at bound
    exact bound

/-- A double that is at least one and at most `bound`, by its magnitude. -/
def Within (x : Float) (bound : ℚ) : Prop :=
  ∃ sign m q positive, x.toModel.unpack = .finite sign m q positive ∧ Normal m q ∧ value m q ≤ bound

section Within

variable {x y : Float} {a b : ℚ}

theorem Within.isFinite (within : Within x a) : x.isFinite = true := by
  obtain ⟨sign, m, q, positive, unpacked, -, -⟩ := within
  change x.toModel.unpack.isFinite = true
  rw [unpacked]
  rfl

theorem Within.mono (within : Within x a) (le : a ≤ b) : Within x b := by
  obtain ⟨sign, m, q, positive, unpacked, normal, bound⟩ := within
  exact ⟨sign, m, q, positive, unpacked, normal, bound.trans le⟩

theorem within_round {sign : Sign} {m k : Nat} {e : Int}
    (made : x.toModel = .pack (roundWithAccuracy Format.binary64 sign m e .exact)) (bits : m.log2 = 52 + k)
    (least : -52 ≤ e + k) (small : value m e < limit) : Within x (value m e * (1 + ulp)) := by
  obtain ⟨r, q, positive, rounded, normal, bound⟩ := round_normal sign bits least small
  refine ⟨sign, r, q, positive, ?_, normal, bound⟩
  rw [made, rounded]
  have least : -1074 ≤ q := le_trans (by norm_num) normal.least
  exact unpack_pack normal.wide normal.narrow least normal.most sign positive

theorem within_mul (left : Within x a) (right : Within y b) (small : a * b < limit) :
    Within (x * y) (a * b * (1 + ulp)) := by
  obtain ⟨s, m, q, _, unpacked, ⟨wide, narrow, least, -⟩, bound⟩ := left
  obtain ⟨t, n, p, _, unpacked', ⟨wide', narrow', least', -⟩, bound'⟩ := right
  have product : (x * y).toModel = .pack (roundWithAccuracy Format.binary64 (s * t) (m * n) (q + p) .exact) := by
    change Float.Model.pack (UnpackedFloat.mul Format.binary64 x.toModel.unpack y.toModel.unpack) = _
    rw [unpacked, unpacked']
    rfl
  have exact : value (m * n) (q + p) = value m q * value n p := by
    simp only [value, Nat.cast_mul, zpow_add₀ (two_ne_zero : (2 : ℚ) ≠ 0)]
    ring
  have le : value (m * n) (q + p) ≤ a * b := by
    rw [exact]
    have positive : 0 ≤ value n p := mul_nonneg (Nat.cast_nonneg n) (two_zpow_pos p).le
    exact mul_le_mul bound bound' positive ((mul_nonneg (Nat.cast_nonneg m) (two_zpow_pos q).le).trans bound)
  have low : 2 ^ 52 * 2 ^ 52 ≤ m * n := Nat.mul_le_mul wide wide'
  have high : m * n < 2 ^ 53 * 2 ^ 53 := Nat.mul_lt_mul'' narrow narrow'
  obtain ⟨k, bits, enough⟩ : ∃ k, (m * n).log2 = 52 + k ∧ 52 ≤ k := by
    have atLeast : 104 ≤ (m * n).log2 := (Nat.le_log2 (by omega)).mpr (by omega)
    exact ⟨(m * n).log2 - 52, by omega, by omega⟩
  refine (within_round product bits (by omega) (le.trans_lt small)).mono ?_
  exact mul_le_mul_of_nonneg_right le (by norm_num [ulp])

/-- Shifted to the width of a mantissa, a short whole number has 53 bits. -/
theorem log2_widened {n : Nat} (nonzero : n ≠ 0) (short : n.log2 ≤ 52) : (n * 2 ^ (52 - n.log2)).log2 = 52 := by
  have below : 2 ^ n.log2 ≤ n := Nat.log2_self_le nonzero
  have above : n < 2 ^ (n.log2 + 1) := Nat.lt_log2_self
  have lowest : 2 ^ n.log2 * 2 ^ (52 - n.log2) = 2 ^ 52 := by rw [← pow_add, Nat.add_sub_cancel' short]
  have highest : 2 ^ (n.log2 + 1) * 2 ^ (52 - n.log2) = 2 ^ (52 + 1) := by
    rw [pow_succ, Nat.mul_right_comm, lowest, ← pow_succ]
  rw [Nat.log2_eq_iff (Nat.mul_ne_zero nonzero (Nat.two_pow_pos _).ne')]
  constructor
  · exact lowest ▸ Nat.mul_le_mul_right _ below
  · exact highest ▸ Nat.mul_lt_mul_of_pos_right above (Nat.two_pow_pos _)

theorem toModel_toFloat {n : Nat} (nonzero : n ≠ 0) (short : n < 2 ^ 53) :
    n.toUInt64.toFloat.toModel = .pack (roundWithAccuracy Format.binary64 .positive
      (n * 2 ^ (52 - n.log2)) (-(52 - n.log2 : Nat)) .exact) := by
  have bound : n.log2 ≤ 52 := Nat.lt_succ_iff.mp ((Nat.log2_lt nonzero).mpr short)
  have same : n.toUInt64.toNat = n := Nat.mod_eq_of_lt (by omega)
  have shift : (-Format.binary64.targetExponent (totalExponent n 0)).toNat = 52 - n.log2 := by
    have width : Format.binary64.mantissaBits = 53 := rfl
    have bottom : Format.binary64.minExponent = -1074 := rfl
    simp only [Format.targetExponent, totalExponent, width, bottom]
    omega
  have positive : compare (n : Int) 0 = .gt := by
    rw [compare_gt_iff_gt]
    omega
  change Float.Model.pack (UnpackedFloat.ofUInt64 Format.binary64 n.toUInt64) = _
  simp only [UnpackedFloat.ofUInt64, UnpackedFloat.ofNat, UnpackedFloat.ofInt, UnpackedFloat.normalize, same, positive,
    UnpackedFloat.round, decreaseExponent, Int.toNat_natCast, Nat.shiftLeft_eq, zero_sub, shift]

/-- A whole number that is short enough to be a double. -/
theorem within_toFloat {n : Nat} (nonzero : n ≠ 0) (short : n < 2 ^ 53) :
    Within n.toUInt64.toFloat (n * (1 + ulp)) := by
  have bound : n.log2 ≤ 52 := Nat.lt_succ_iff.mp ((Nat.log2_lt nonzero).mpr short)
  have whole : value (n * 2 ^ (52 - n.log2)) (-(52 - n.log2 : Nat)) = n := by
    rw [value_shift, neg_add_cancel, value, zpow_zero, mul_one]
  have small : value (n * 2 ^ (52 - n.log2)) (-(52 - n.log2 : Nat)) < limit := by
    rw [whole]
    have below : (n : ℚ) < 2 ^ 53 := by exact_mod_cast short
    have wide : (2 : ℚ) ^ (1 : ℤ) ≤ 2 ^ (971 : ℤ) := zpow_le_zpow_right₀ one_le_two (by norm_num)
    rw [zpow_one] at wide
    calc (n : ℚ) < (2 ^ 53 - 1) * 2 := by linarith
      _ ≤ limit := mul_le_mul_of_nonneg_left wide (by norm_num)
  have within := within_round (toModel_toFloat nonzero short) (k := 0) (log2_widened nonzero bound) (by omega) small
  rwa [whole] at within

def isExactly (x : Float) (n : Nat) : Bool :=
  match x.toModel.unpack with
  | .finite _ m q _ => 2 ^ 52 ≤ m && m < 2 ^ 53 && -52 ≤ q && q ≤ 971 && m * 2 ^ q.toNat == n * 2 ^ (-q).toNat
  | _ => false

theorem within_of_isExactly {n : Nat} (exact : isExactly x n = true) : Within x n := by
  unfold isExactly at exact
  split at exact
  case h_2 => cases exact
  case h_1 sign m q positive unpacked =>
    simp only [Bool.and_eq_true, decide_eq_true_eq, beq_iff_eq] at exact
    obtain ⟨⟨⟨⟨wide, narrow⟩, least⟩, most⟩, same⟩ := exact
    refine ⟨sign, m, q, positive, unpacked, ⟨wide, narrow, least, most⟩, le_of_eq ?_⟩
    have same : (m : ℚ) * 2 ^ (q.toNat : ℤ) = n * 2 ^ ((-q).toNat : ℤ) := by
      rw [zpow_natCast, zpow_natCast]
      exact_mod_cast same
    have split : q = q.toNat - (-q).toNat := by omega
    rw [value, split, zpow_sub₀ two_ne_zero, ← mul_div_assoc, same, mul_div_assoc,
      div_self (two_zpow_pos _).ne', mul_one]

theorem within_powersOfTen {e : Nat} (small : e < Float.exactlyRepresentablePowersOfTen.size) :
    Within Float.exactlyRepresentablePowersOfTen[e] (10 ^ e) := by
  have check : ∀ i : Fin Float.exactlyRepresentablePowersOfTen.size,
      isExactly Float.exactlyRepresentablePowersOfTen[i] (10 ^ i.val) = true := by
    decide +kernel +revert
  have exact := within_of_isExactly (check ⟨e, small⟩)
  rwa [Nat.cast_pow] at exact

theorem toModel_ofScientific {n e : Nat} (nonzero : n ≠ 0) (most : e ≤ 2048) :
    (Float.ofModel (Float.Model.ofScientific n (Int.ofNat e))).toModel =
      .pack (roundWithAccuracy Format.binary64 (.positive * .positive) (n * 2 ^ 53 * 10 ^ e) (-(53 : Nat)) .exact) := by
  have notHuge : ¬(e : Int) > 2 ^ 11 := by omega
  have notTiny : ¬(e : Int) < -(2 ^ 11 + (n.log2 : Int)) := by omega
  have width : Format.binary64.mantissaBits = 53 := rfl
  change Float.Model.pack (UnpackedFloat.ofScientific Format.binary64 n e) = _
  simp only [UnpackedFloat.ofScientific, dif_neg nonzero, if_neg notHuge, if_neg notTiny,
    if_pos (Int.natCast_nonneg e), UnpackedFloat.mul, Nat.shiftLeft_eq, width, Int.toNat_natCast, Int.add_zero]

/-- A whole number times a power of ten. -/
theorem within_ofScientific {n e : Nat} (nonzero : n ≠ 0) (most : e ≤ 2048)
    (small : n * 10 ^ e * (1 + ulp) < limit) : Within (Float.ofScientific n false e) (n * 10 ^ e * (1 + ulp) ^ 2) := by
  have atLeast : (n : ℚ) * 10 ^ e * (1 + ulp) ≤ n * 10 ^ e * (1 + ulp) ^ 2 :=
    mul_le_mul_of_nonneg_left (by norm_num [ulp]) (by positivity)
  unfold Float.ofScientific
  split
  case isTrue short =>
    have within := within_mul (within_toFloat nonzero short.1) (within_powersOfTen (Nat.lt_succ_iff.mpr short.2))
      (by linarith)
    exact within.mono (le_of_eq (by ring))
  case isFalse long =>
    have whole : value (n * 2 ^ 53 * 10 ^ e) (-(53 : Nat)) = n * 10 ^ e := by
      rw [Nat.mul_right_comm, value_shift, neg_add_cancel, value, zpow_zero, mul_one, Nat.cast_mul, Nat.cast_pow,
        Nat.cast_ofNat]
    have wide : 2 ^ 53 ≤ n * 2 ^ 53 * 10 ^ e :=
      calc 2 ^ 53 ≤ n * 2 ^ 53 := Nat.le_mul_of_pos_left _ (Nat.pos_of_ne_zero nonzero)
        _ ≤ n * 2 ^ 53 * 10 ^ e := Nat.le_mul_of_pos_right _ (Nat.pow_pos (by norm_num))
    have bits : 53 ≤ (n * 2 ^ 53 * 10 ^ e).log2 := (Nat.le_log2 (by omega)).mpr wide
    have below : value (n * 2 ^ 53 * 10 ^ e) (-(53 : Nat)) < limit := by
      rw [whole]
      exact lt_of_le_of_lt (le_mul_of_one_le_right (by positivity) (by norm_num [ulp])) small
    have within := within_round (toModel_ofScientific nonzero most) (k := (n * 2 ^ 53 * 10 ^ e).log2 - 52)
      (by omega) (by omega) below
    rw [whole] at within
    exact within.mono atLeast

/-- A whole number times a power of ten is finite when the product stays clear of the limit by the five roundings
that it takes. -/
theorem isFinite_scaled {n e : Nat} (nonzero : n ≠ 0) (most : e ≤ 2048)
    (small : n * 10 ^ e * (1 + ulp) ^ 5 < limit) :
    (Float.ofNat n * Float.ofScientific 1 false e).isFinite = true := by
  have unit : (1 : ℚ) ≤ 1 + ulp := by norm_num [ulp]
  have atLeastOne : (1 : ℚ) ≤ n := by exact_mod_cast Nat.pos_of_ne_zero nonzero
  have power : (1 : ℚ) ≤ 10 ^ e := one_le_pow₀ (by norm_num)
  have below {a : ℚ} {k : Nat} (bound : a ≤ n * 10 ^ e) (fewer : k ≤ 5) : a * (1 + ulp) ^ k < limit :=
    calc a * (1 + ulp) ^ k ≤ n * 10 ^ e * (1 + ulp) ^ k := mul_le_mul_of_nonneg_right bound (by positivity)
      _ ≤ n * 10 ^ e * (1 + ulp) ^ 5 := mul_le_mul_of_nonneg_left (pow_le_pow_right₀ unit fewer) (by positivity)
      _ < limit := small
  have left : Within (Float.ofNat n) (n * 10 ^ 0 * (1 + ulp) ^ 2) :=
    within_ofScientific nonzero (Nat.zero_le 2048) (pow_one (1 + ulp) ▸ below (by nlinarith) (by norm_num))
  have right : Within (Float.ofScientific 1 false e) ((1 : Nat) * 10 ^ e * (1 + ulp) ^ 2) :=
    within_ofScientific one_ne_zero most (pow_one (1 + ulp) ▸ below (by push_cast; nlinarith) (by norm_num))
  refine (within_mul left right ?_).isFinite
  calc n * 10 ^ 0 * (1 + ulp) ^ 2 * ((1 : Nat) * 10 ^ e * (1 + ulp) ^ 2)
      = n * 10 ^ e * (1 + ulp) ^ 4 := by push_cast; ring
    _ < limit := below le_rfl (by norm_num)

end Within

end DeviceRules.Double
