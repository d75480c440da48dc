import DeviceRules.Text.Basic

/-! Names of rules, owners and devices. Rules and owners are named by 128-bit identifiers, devices by the free
texts that their registry hands out. -/
namespace DeviceRules

structure Uuid where
  bytes : List UInt8
  length_eq : bytes.length = 16
  deriving DecidableEq

namespace Uuid

def ofBytes? (bytes : List UInt8) : Option Uuid :=
  if h : bytes.length = 16 then some ⟨bytes, h⟩ else none

def zero : Uuid := ⟨List.replicate 16 0, by simp⟩

instance : Inhabited Uuid := ⟨zero⟩

def byteText (b : UInt8) : List Char := [Nat.digitChar (b.toNat / 16), Nat.digitChar (b.toNat % 16)]

/-- The digits in groups of 8, 4, 4, 4 and 12 with hyphens between. -/
def text (u : Uuid) : String :=
  let part (start count : Nat) := ((u.bytes.drop start).take count).flatMap byteText
  String.ofList (part 0 4 ++ '-' :: part 4 2 ++ '-' :: part 6 2 ++ '-' :: part 8 2 ++ '-' :: part 10 6)

instance : Repr Uuid := ⟨fun u _ => u.text⟩

def nibble? (c : Char) : Option Nat :=
  if c.isDigit then some (c.toNat - '0'.toNat)
  else if 'a' ≤ c && c ≤ 'f' then some (c.toNat - 'a'.toNat + 10)
  else if 'A' ≤ c && c ≤ 'F' then some (c.toNat - 'A'.toNat + 10)
  else none

def bytes? : List Char → Option (List UInt8)
  | [] => some []
  | high :: low :: rest => do
      let byte := (← nibble? high) * 16 + (← nibble? low)
      some (UInt8.ofNat byte :: (← bytes? rest))
  | [_] => none

/-- The groups without their hyphens, if the hyphens are where they belong. -/
def ungrouped? (cs : List Char) : Option (List Char) :=
  let hyphens := [8, 13, 18, 23]
  if cs.length = 36 && hyphens.all (cs[·]? == some '-') then
    some (cs.take 8 ++ (cs.drop 9).take 4 ++ (cs.drop 14).take 4 ++ (cs.drop 19).take 4 ++ cs.drop 24)
  else none

/-- The identifier written as 32 digits, or in groups, alone, in braces or after `urn:uuid:`. -/
def ofText? (s : String) : Option Uuid := do
  let cs := s.toList
  let digits ←
    if cs.length = 32 then some cs
    else if cs.length = 36 then ungrouped? cs
    else if cs.length = 38 && cs.head? == some '{' && cs.getLast? == some '}' then ungrouped? (cs.drop 1).dropLast
    else if cs.length = 45 && (cs.take 9).map Char.toLower == "urn:uuid:".toList then ungrouped? (cs.drop 9)
    else none
  ofBytes? (← bytes? digits)

end Uuid

structure RuleId where
  uuid : Uuid
  deriving DecidableEq, Inhabited, Repr

structure OwnerId where
  uuid : Uuid
  deriving DecidableEq, Inhabited, Repr

structure DeviceId where
  name : String
  deriving DecidableEq, Inhabited, Repr

namespace DeviceId

def isBlank (d : DeviceId) : Bool := Text.isBlankText d.name

/-- The device, unless its name is blank: a blank name addresses no device. -/
def target? (d : DeviceId) : Option DeviceId := if d.isBlank then none else some d

end DeviceId

/-- A node of a document together with the device that it names itself, if any. -/
structure Addressed (α : Type) where
  device : Option DeviceId
  node : α
  deriving BEq, Repr

/-- The device that the node acts on: its own, unless that is blank. -/
def Addressed.target? {α : Type} (a : Addressed α) : Option DeviceId := a.device.bind DeviceId.target?

end DeviceRules
