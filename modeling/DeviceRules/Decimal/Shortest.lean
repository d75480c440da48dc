import DeviceRules.Decimal.Dyadic

/-! The fewest decimal digits that read back as a given double. A decimal reads back as `x` when it lies in
the interval of numbers that round to `x`; of the shortest such decimals the one nearest to `x` is taken, and of
two at the same distance the one that a `Tie` says. -/
namespace DeviceRules.Decimal

/-- The decimal `digits · 10 ^ exponent`. -/
structure Digits where
  digits : Nat
  exponent : Int
  deriving DecidableEq, Repr

/-- Which of two decimals is taken that are equally near: the one that ends in an even digit, or the one further
from zero. -/
inductive Tie
  | even
  | away
  deriving DecidableEq, Repr

/-- The numbers that round to a double, with `value`, `low` and `high` as multiples of `1 / unit`. The ends
belong to the interval when `closed` is set. -/
structure Interval where
  value : Nat
  low : Nat
  high : Nat
  unit : Nat
  closed : Bool
  deriving Repr

/-- The interval of a double that is not zero. Its ends are the midpoints to the neighbouring doubles, which
round to the even one. -/
def Interval.ofDyadic (d : Dyadic) : Interval :=
  let up := if 0 ≤ d.exponent then 1 <<< d.exponent.toNat else 1
  let unit := 4 * (if 0 ≤ d.exponent then 1 else 1 <<< (-d.exponent).toNat)
  let below := if d.mantissa = implicitBit ∧ d.exponent ≠ -1074 then 1 else 2
  { value := 4 * d.mantissa * up
    low := (4 * d.mantissa - below) * up
    high := (4 * d.mantissa + 2) * up
    unit
    closed := d.mantissa % 2 = 0 }

/-- The number of decimal digits of `n`, at least one. -/
def width (n : Nat) : Nat := (Nat.toDigits 10 n).length

/-- The exponent `e` with `10 ^ (e - 1) ≤ value / unit < 10 ^ e`. The widths of the two numbers give it or the one
below. -/
def magnitude (i : Interval) : Int :=
  let guess : Int := (width i.value : Int) - (width i.unit : Int)
  let atLeast (e : Int) : Bool :=
    if 0 ≤ e then i.unit * Nat.pow 10 e.toNat ≤ i.value else i.unit ≤ i.value * Nat.pow 10 (-e).toNat
  if atLeast guess then guess + 1 else guess

/-- Whether a tie above the grid point `down` goes to it. -/
def Tie.goesDown : Tie → Nat → Bool
  | even, down => down % 2 == 0
  | away, _ => false

/-- The neighbour of the value on the grid of `10 ^ exponent` that lies in the interval, the nearer if both do. -/
def gridHit (tie : Tie) (i : Interval) (exponent : Int) : Option Nat :=
  let scale := Nat.pow 10 exponent.natAbs
  let (value, low, high, step) :=
    if 0 ≤ exponent then (i.value, i.low, i.high, i.unit * scale)
    else (i.value * scale, i.low * scale, i.high * scale, i.unit)
  let inside (k : Nat) : Bool :=
    let p := k * step
    if i.closed then low ≤ p && p ≤ high else low < p && p < high
  let down := value / step
  let up := down + 1
  let toDown := value - down * step
  let toUp := up * step - value
  let downFirst := toDown < toUp || (toDown == toUp && tie.goesDown down)
  if downFirst then
    if inside down then some down else if inside up then some up else none
  else
    if inside up then some up else if inside down then some down else none

/-- The first grid, from the coarsest, that has a point in the interval. `places` bounds the search. -/
def firstHit (tie : Tie) (i : Interval) (exponent : Int) : Nat → Digits
  | 0 => ⟨0, 0⟩
  | places + 1 =>
      match gridHit tie i exponent with
      | some digits => ⟨digits, exponent⟩
      | none => firstHit tie i (exponent - 1) places

/-- The shortest decimal that reads back as the finite double `x`, up to its sign. The first grid has one digit
before the unit of `x`, and seventeen digits are enough for every double. -/
def shortest (tie : Tie) (x : Float) : Digits :=
  let d := Dyadic.ofFloat x
  if d.mantissa = 0 then ⟨0, 0⟩
  else
    let i := Interval.ofDyadic d
    firstHit tie i (magnitude i - 1) 18

/-- Drops the zeros at the end of the digits; zero is left alone. -/
def Digits.strip (d : Digits) : Digits :=
  let rec go (digits : Nat) (exponent : Int) : Nat → Digits
    | 0 => ⟨digits, exponent⟩
    | fuel + 1 => if digits % 10 = 0 ∧ digits ≠ 0 then go (digits / 10) (exponent + 1) fuel else ⟨digits, exponent⟩
  go d.digits d.exponent (width d.digits)

end DeviceRules.Decimal
