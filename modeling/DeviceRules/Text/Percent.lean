import DeviceRules.Json.Reader

/-! Percent encoding: a byte is written as `%` and two digits in base sixteen. Forms also write a space as `+`. -/
namespace DeviceRules.Text

def hexByte? (b : UInt8) : Option UInt8 := (Json.hex? (Char.ofNat b.toNat)).map UInt8.ofNat

/-- The bytes with every written byte replaced by itself; a `%` that writes none stands for itself. -/
def percentDecoded : List UInt8 → List UInt8
  | [] => []
  | 0x25 :: high :: low :: rest =>
      match hexByte? high, hexByte? low with
      | some h, some l => (h * 16 + l) :: percentDecoded rest
      | _, _ => 0x25 :: percentDecoded (high :: low :: rest)
  | b :: rest => b :: percentDecoded rest

def ofBytes? (bytes : List UInt8) : Option String := String.fromUTF8? ⟨bytes.toArray⟩

def bytes (s : String) : List UInt8 := s.toUTF8.toList

def percentText? (s : String) : Option String := ofBytes? (percentDecoded (bytes s))

def formText? (s : String) : Option String :=
  ofBytes? (percentDecoded ((bytes s).map fun b => if b = 0x2B then 0x20 else b))

/-- The characters before the first `c` and those after it, if there is one. -/
def cut (c : Char) (cs : List Char) : List Char × Option (List Char) :=
  match cs.dropWhile (· != c) with
  | [] => (cs, none)
  | _ :: rest => (cs.takeWhile (· != c), some rest)

def pieces (c : Char) (cs : List Char) : List (List Char) :=
  cs.foldr (fun d done =>
    if d = c then [] :: done
    else match done with
      | first :: rest => (d :: first) :: rest
      | [] => [[d]]) [[]]

/-- The names and values of a form, if all of them are texts. -/
def formPairs? (s : String) : Option (List (String × String)) :=
  ((pieces '&' s.toList).filter (!·.isEmpty)).mapM fun piece => do
    let (name, value) := cut '=' piece
    some (← formText? (String.ofList name), ← formText? (String.ofList (value.getD [])))

/-- The digit for a number below sixteen, as a capital letter from ten on. -/
def capitalDigit (n : Nat) : Char := (Nat.digitChar n).toUpper

def isFormByte (b : UInt8) : Bool :=
  let c := Char.ofNat b.toNat
  c.isAlphanum || c == '*' || c == '-' || c == '.' || c == '_'

def formByte (b : UInt8) : List Char :=
  if isFormByte b then [Char.ofNat b.toNat]
  else if b = 0x20 then ['+']
  else ['%', capitalDigit (b.toNat / 16), capitalDigit (b.toNat % 16)]

def formEncoded (s : String) : String := String.ofList ((bytes s).flatMap formByte)

end DeviceRules.Text
