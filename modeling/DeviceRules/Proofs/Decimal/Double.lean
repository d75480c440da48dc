import Mathlib

/-! Doubles as their sign, mantissa and exponent. The three parts of the bits are put together again as they were taken
apart, so that an operation that leaves the parts alone leaves the double alone. -/
namespace DeviceRules.Double

open Float.Model Float.Model.UnpackedFloat

theorem toBitVec_ofBitVec (b : BitVec 1) : (Sign.ofBitVec b).toBitVec = b := by
  revert b
  decide

theorem packComponents_of_parts {b : BitVec Format.binary64.numBits} {exponent : BitVec 11} {mantissa : BitVec 52}
    (top : unpackExponent b = exponent) (low : unpackMantissa b = mantissa) :
    packComponents Format.binary64 (Sign.ofBitVec (unpackSign b)) exponent mantissa = b := by
  subst top low
  refine BitVec.eq_of_getLsbD_eq fun i wide => ?_
  simp only [packComponents, toBitVec_ofBitVec, BitVec.getLsbD_append, unpackSign, unpackExponent, unpackMantissa,
    BitVec.getLsbD_cast, BitVec.getLsbD_extractLsb]
  by_cases low : i < 52
  · simp [low]
  · by_cases middle : i - 52 < 11
    · have place : 52 + (i - 52) = i := by omega
      simp [low, middle, place]
    · have last : i = 63 := by
        have : i < 64 := wide
        omega
      simp [last]

theorem ofBitVec_toBitVec (s : Sign) : Sign.ofBitVec s.toBitVec = s := by
  cases s <;> rfl

section Parts

variable (sign : Sign) (exponent : BitVec 11) (mantissa : BitVec 52)

theorem unpackMantissa_packComponents :
    unpackMantissa (packComponents Format.binary64 sign exponent mantissa) = mantissa := by
  refine BitVec.eq_of_getLsbD_eq fun i wide => ?_
  have low : i < 52 := wide
  simp only [packComponents, unpackMantissa, BitVec.getLsbD_append, BitVec.getLsbD_cast, BitVec.getLsbD_extractLsb]
  simp [low]

theorem unpackExponent_packComponents :
    unpackExponent (packComponents Format.binary64 sign exponent mantissa) = exponent := by
  refine BitVec.eq_of_getLsbD_eq fun i wide => ?_
  have low : i < 11 := wide
  simp only [packComponents, unpackExponent, BitVec.getLsbD_append, BitVec.getLsbD_cast, BitVec.getLsbD_extractLsb]
  simp [low]

theorem unpackSign_packComponents :
    unpackSign (packComponents Format.binary64 sign exponent mantissa) = sign.toBitVec := by
  refine BitVec.eq_of_getLsbD_eq fun i wide => ?_
  obtain rfl : i = 0 := by omega
  simp only [packComponents, unpackSign, BitVec.getLsbD_append, BitVec.getLsbD_cast, BitVec.getLsbD_extractLsb]
  simp

end Parts

theorem toNat_one_append (m : BitVec 52) : (1#1 ++ m).toNat = 2 ^ 52 + m.toNat := by
  rw [BitVec.toNat_append, ← Nat.shiftLeft_add_eq_or_of_lt m.isLt]
  rfl

theorem log2_normal {m : Nat} (small : m < 2 ^ 52) : (2 ^ 52 + m).log2 = 52 :=
  (Nat.log2_eq_iff (by omega)).mpr ⟨by omega, by omega⟩

theorem log2_subnormal {m : Nat} (small : m < 2 ^ 52) : m.log2 < 52 := by
  by_cases zero : m = 0
  · simp [zero]
  · exact (Nat.log2_lt zero).mpr small

theorem pack_unpack (f : Float.Model) : Float.Model.pack f.unpack = f := by
  obtain ⟨bits, valid⟩ := f
  suffices same : UnpackedFloat.pack Format.binary64 (UnpackedFloat.unpack Format.binary64 bits.toBitVec) =
      bits.toBitVec by
    simp only [Float.Model.pack, Float.Model.unpack, same]
  have width : Format.binary64.mantissaBits = 52 + 1 := rfl
  have mantissaBound : (@unpackMantissa Format.binary64 bits.toBitVec).toNat < 2 ^ 52 := BitVec.isLt _
  unfold UnpackedFloat.unpack
  dsimp only
  split
  case isTrue top =>
    split
    case isTrue zero => exact packComponents_of_parts top zero
    case isFalse payload => exact (valid.eq_packedNaN top payload).symm
  case isFalse bounded =>
    split
    case isTrue bottom =>
      split
      case isTrue zero => exact packComponents_of_parts bottom zero
      case isFalse some =>
        have short := log2_subnormal mantissaBound
        simp only [UnpackedFloat.pack, bottom]
        rw [if_neg (by decide), if_neg (by omega)]
        exact packComponents_of_parts bottom (by simp)
    case isFalse above =>
      have exponentBound : (@unpackExponent Format.binary64 bits.toBitVec).toNat < 2048 := BitVec.isLt _
      have notTop : (@unpackExponent Format.binary64 bits.toBitVec).toNat ≠ 2047 :=
        fun same => bounded (BitVec.eq_of_toNat_eq same)
      have biased (n : Nat) : ((n : Int) - (Format.binary64.exponentBias + (52 : Nat)) +
          Format.binary64.exponentBias + (52 : Nat)).toNat = n := by
        omega
      simp only [UnpackedFloat.pack, toNat_one_append, log2_normal mantissaBound]
      rw [biased, if_neg (by simp only [Format.binary64]; omega), if_pos width.symm]
      refine packComponents_of_parts (by simp) (BitVec.eq_of_toNat_eq ?_)
      rw [BitVec.toNat_ofNat, Nat.add_mod_left, Nat.mod_eq_of_lt mantissaBound]

/-- The three parts of a normal double are taken apart again as they were put together. -/
theorem unpack_pack {m : Nat} {q : Int} (wide : 2 ^ 52 ≤ m) (narrow : m < 2 ^ 53) (least : -1074 ≤ q)
    (most : q ≤ 971) (sign : Sign) (positive : 0 < m) :
    UnpackedFloat.unpack Format.binary64 (UnpackedFloat.pack Format.binary64 (.finite sign m q positive)) =
      .finite sign m q positive := by
  have width : Format.binary64.mantissaBits = 52 + 1 := rfl
  have bits : m.log2 = 52 := (Nat.log2_eq_iff (by omega)).mpr ⟨wide, narrow⟩
  have bias : (Format.binary64.exponentBias : Int) = 1023 := rfl
  have biased : (q + Format.binary64.exponentBias + (52 : Nat)).toNat = (q + 1075).toNat := by
    rw [bias]
    congr 1
    omega
  have packed : UnpackedFloat.pack Format.binary64 (.finite sign m q positive) =
      packComponents Format.binary64 sign (BitVec.ofNat 11 (q + 1075).toNat) (BitVec.ofNat 52 m) := by
    simp only [UnpackedFloat.pack, biased, bits]
    rw [if_neg (by omega), if_pos width.symm]
  have stored : (BitVec.ofNat 11 (q + 1075).toNat).toNat = (q + 1075).toNat := by
    rw [BitVec.toNat_ofNat]
    omega
  have inside : BitVec.ofNat 11 (q + 1075).toNat ≠ -1#11 ∧ BitVec.ofNat 11 (q + 1075).toNat ≠ 0#11 := by
    constructor <;> intro same
    all_goals
      have value := congrArg BitVec.toNat same
      rw [stored] at value
      simp at value
      omega
  have mantissa : (1#1 ++ BitVec.ofNat 52 m).toNat = m := by
    rw [toNat_one_append, BitVec.toNat_ofNat]
    omega
  have exponent : ((BitVec.ofNat 11 (q + 1075).toNat).toNat : Int) - (Format.binary64.exponentBias + (52 : Nat)) =
      q := by
    rw [stored, bias]
    omega
  rw [packed]
  unfold UnpackedFloat.unpack
  simp only [unpackMantissa_packComponents, unpackExponent_packComponents, unpackSign_packComponents,
    ofBitVec_toBitVec]
  rw [if_neg inside.1, if_neg inside.2]
  simp only [mantissa, exponent]

/-- A zero added to a number leaves the number, and a zero without its sign. -/
theorem add_zero_of_number {x : Float} (number : x.isNaN = false) : x + 0 = if x == 0 then 0 else x := by
  have sum : x + 0 = .ofModel (pack (UnpackedFloat.add Format.binary64 x.toModel.unpack (.zero .positive))) := rfl
  have equal : (x == 0) = (x.toModel.unpack.compare (.zero .positive) == some .eq) := rfl
  have again : Float.ofModel (pack x.toModel.unpack) = x := congrArg Float.ofModel (pack_unpack _)
  have number : x.toModel.unpack.isNaN = false := number
  rw [sum, equal]
  cases unpacked : x.toModel.unpack with
  | notANumber =>
      rw [unpacked] at number
      contradiction
  | zero sign => cases sign <;> rfl
  | infinity sign =>
      rw [unpacked] at again
      cases sign <;> exact again
  | finite sign mantissa exponent positive =>
      rw [unpacked] at again
      cases sign <;> exact again

end DeviceRules.Double
