import DeviceRules.Proofs.Decimal.Double

/-! The signs of doubles. Packing keeps a sign, and a product has the sign that its factors give it, unless it is not a
number. So a negative double times a positive one is not above zero, whatever the product is rounded to. -/
namespace DeviceRules.Double

open Float.Model Float.Model.UnpackedFloat

/-- The sign, which a double has unless it is not a number. -/
def sign? : UnpackedFloat → Option Sign
  | .notANumber => none
  | .infinity s | .zero s | .finite s _ _ _ => some s

theorem unpackSign_pack {f : UnpackedFloat} {s : Sign} (signed : sign? f = some s) :
    unpackSign (UnpackedFloat.pack Format.binary64 f) = s.toBitVec := by
  cases f with
  | notANumber => contradiction
  | infinity t | zero t =>
      cases signed
      exact unpackSign_packComponents ..
  | finite t m e positive =>
      cases signed
      simp only [UnpackedFloat.pack]
      split
      · exact unpackSign_packComponents ..
      · split <;> exact unpackSign_packComponents ..

theorem sign?_unpack (b : BitVec Format.binary64.numBits) :
    sign? (UnpackedFloat.unpack Format.binary64 b) = none ∨
      sign? (UnpackedFloat.unpack Format.binary64 b) = some (Sign.ofBitVec (unpackSign b)) := by
  unfold UnpackedFloat.unpack
  dsimp only
  split
  · split
    · exact .inr rfl
    · exact .inl rfl
  · split
    · split <;> exact .inr rfl
    · exact .inr rfl

/-- What is unpacked with a sign was packed with it. -/
theorem sign?_of_unpack_pack {f : UnpackedFloat} {s : Sign} (found : sign? (Float.Model.pack f).unpack = some s) :
    sign? f = some s := by
  cases packed : sign? f with
  | none => cases f <;> contradiction
  | some t =>
      rcases sign?_unpack (UnpackedFloat.pack Format.binary64 f) with none | same
      · cases none.symm.trans found
      · rw [unpackSign_pack packed, ofBitVec_toBitVec] at same
        exact same.symm.trans found

theorem sign?_round (s : Sign) (m : Nat) (e : Int) (accuracy : Accuracy) :
    sign? (roundWithAccuracy Format.binary64 s m e accuracy) = some s := by
  unfold roundWithAccuracy
  dsimp only
  split <;> rfl

theorem sign?_mul {f g : UnpackedFloat} {s t : Sign} (left : sign? f = some s) (right : sign? g = some t) :
    sign? (UnpackedFloat.mul Format.binary64 f g) = none ∨
      sign? (UnpackedFloat.mul Format.binary64 f g) = some (s * t) := by
  cases f with
  | notANumber => contradiction
  | infinity =>
      cases left
      cases g with
      | notANumber => contradiction
      | zero => exact .inl rfl
      | infinity | finite => cases right; exact .inr rfl
  | zero =>
      cases left
      cases g with
      | notANumber => contradiction
      | infinity => exact .inl rfl
      | zero | finite => cases right; exact .inr rfl
  | finite =>
      cases left
      cases g with
      | notANumber => contradiction
      | infinity | zero => cases right; exact .inr rfl
      | finite => cases right; exact .inr (sign?_round ..)

variable {x y : Float}

theorem sign?_of_neg (negative : x < 0) : sign? x.toModel.unpack = some .negative := by
  have compared : (x.toModel.unpack.compare (.zero .positive) == some .lt) = true := of_decide_eq_true negative
  cases parts : x.toModel.unpack with
  | notANumber | zero => rw [parts] at compared; contradiction
  | infinity s | finite s =>
      rw [parts] at compared
      cases s with
      | negative => rfl
      | positive => contradiction

theorem sign?_of_pos (positive : 0 < x) : sign? x.toModel.unpack = some .positive := by
  have compared : (UnpackedFloat.compare (.zero .positive) x.toModel.unpack == some .lt) = true :=
    of_decide_eq_true positive
  cases parts : x.toModel.unpack with
  | notANumber | zero => rw [parts] at compared; contradiction
  | infinity s | finite s =>
      rw [parts] at compared
      cases s with
      | negative => contradiction
      | positive => rfl

/-- A negative double times a positive one is a double that is not above zero, or not a number. -/
theorem not_pos_mul (negative : x < 0) (positive : 0 < y) : ¬0 < x * y := by
  intro above
  have found : sign? (UnpackedFloat.mul Format.binary64 x.toModel.unpack y.toModel.unpack) = some .positive :=
    sign?_of_unpack_pack (sign?_of_pos above)
  rcases sign?_mul (sign?_of_neg negative) (sign?_of_pos positive) with none | signed
  · cases none.symm.trans found
  · cases signed.symm.trans found

end DeviceRules.Double
