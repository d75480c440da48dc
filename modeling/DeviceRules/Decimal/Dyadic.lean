/-! The exact value of a finite double: a whole number times a power of two. Rounding and printing work on
this value in whole-number arithmetic, so no step of theirs depends on floating-point operations. -/
namespace DeviceRules.Decimal

/-- The magnitude `mantissa · 2 ^ exponent`. -/
structure Dyadic where
  mantissa : Nat
  exponent : Int
  deriving DecidableEq, Repr

/-- The bit above the 52 stored ones that a normal double has without storing it. -/
def implicitBit : Nat := 0x10000000000000

namespace Dyadic

/-- Whether the sign bit of `x` is set, which it is for -0. -/
def signBit (x : Float) : Bool := x.toBits >>> 63 == 1

/-- The magnitude of a finite double. Subnormal numbers share the least exponent. -/
def ofFloat (x : Float) : Dyadic :=
  let bits := x.toBits.toNat
  let fraction := bits % implicitBit
  let biased : Nat := bits / implicitBit % 2048
  if biased = 0 then ⟨fraction, -1074⟩ else ⟨fraction + implicitBit, (biased : Int) - 1075⟩

def ratio (d : Dyadic) : Nat × Nat :=
  if 0 ≤ d.exponent then (d.mantissa <<< d.exponent.toNat, 1)
  else (d.mantissa, 1 <<< (-d.exponent).toNat)

end Dyadic

/-- The whole number nearest to `numerator / denominator`; a half goes to the even neighbour. -/
def roundHalfEven (numerator denominator : Nat) : Nat :=
  let quotient := numerator / denominator
  let rest := 2 * (numerator % denominator)
  if rest < denominator then quotient
  else if denominator < rest then quotient + 1
  else if quotient % 2 = 0 then quotient
  else quotient + 1

end DeviceRules.Decimal
