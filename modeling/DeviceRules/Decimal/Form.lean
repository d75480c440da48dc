import DeviceRules.Decimal.Shortest

/-! How the digits of a number are laid out: plainly, or with an exponent. Each text that shows numbers has one
`Form` that says which. -/
namespace DeviceRules.Decimal

/-- The choices of a number text. A number `0.d₁d₂… · 10 ^ point` is written plainly when
`least ≤ point ≤ most`, or always when there is no such range. -/
structure Form where
  /-- The choice between two texts that are equally near and equally short. -/
  tie : Tie
  /-- The range of the point in which the text is plain; outside it an exponent is written. -/
  plain : Option (Int × Int)
  /-- Whether a whole number written plainly ends in `.0`. -/
  fraction : Bool
  special : Float → String

/-- Numbers inside a document: a tie goes to the even digit; plain from 0.00001 up to sixteen places, always with
a fraction, and `null` for what a document cannot hold. -/
def Form.document : Form := ⟨.even, some (-4, 16), true, fun _ => "null"⟩

/-- Numbers inside a message: a tie goes away from zero; plain at any size and without a needless fraction. -/
def Form.message : Form :=
  ⟨.away, none, false, fun x => if x.isNaN then "NaN" else if Dyadic.signBit x then "-inf" else "inf"⟩

def zeros (count : Nat) : List Char := List.replicate count '0'

/-- The digits with the point after `point` places, counted from their front. -/
def plainText (digits : List Char) (point : Int) (fraction : Bool) : List Char :=
  if point ≤ 0 then '0' :: '.' :: zeros (-point).toNat ++ digits
  else
    let whole := digits.take point.toNat
    let rest := digits.drop point.toNat
    if rest.isEmpty then
      whole ++ zeros (point.toNat - digits.length) ++ (if fraction then ['.', '0'] else [])
    else whole ++ '.' :: rest

/-- The digits with the point after the first, and a signed exponent. -/
def exponentText (digits : List Char) (point : Int) : List Char :=
  let power := point - 1
  let sign := if power < 0 then '-' else '+'
  let rest := digits.drop 1
  digits.take 1 ++ (if rest.isEmpty then [] else '.' :: rest) ++
    'e' :: sign :: Nat.toDigits 10 power.natAbs

/-- The text of `x`. Zero keeps its sign. -/
def Form.text (form : Form) (x : Float) : String :=
  if !x.isFinite then form.special x
  else
    let sign := if Dyadic.signBit x then ['-'] else []
    let decimal := (shortest form.tie x).strip
    if decimal.digits = 0 then
      String.ofList (sign ++ '0' :: (if form.fraction then ['.', '0'] else []))
    else
      let digits := Nat.toDigits 10 decimal.digits
      let point := (digits.length : Int) + decimal.exponent
      let isPlain := match form.plain with
        | none => true
        | some (least, most) => least ≤ point && point ≤ most
      String.ofList (sign ++
        (if isPlain then plainText digits point form.fraction else exponentText digits point))

end DeviceRules.Decimal
