/-! JSON documents. Whole numbers and doubles are apart, and an object keeps its entries in the order in which
they are written. -/
namespace DeviceRules

inductive Json where
  | null
  | bool (b : Bool)
  | whole (n : Int)
  | real (x : Float)
  | text (s : String)
  | array (items : List Json)
  | object (entries : List (String × Json))
  deriving Inhabited, BEq

abbrev Fields := List (String × Json)

namespace Fields

/-- The value of the first entry under `key`. -/
def get? (fields : Fields) (key : String) : Option Json := fields.lookup key

/-- Puts `value` under `key` into entries sorted by key; an entry with the same key is replaced. -/
def insert (key : String) (value : Json) : Fields → Fields
  | [] => [(key, value)]
  | (k, v) :: rest =>
      if key < k then (key, value) :: (k, v) :: rest
      else if key = k then (key, value) :: rest
      else (k, v) :: insert key value rest

/-- The entries sorted by key. Of two with the same key the later one is kept. -/
def sorted (fields : Fields) : Fields :=
  fields.foldl (fun done entry => insert entry.1 entry.2 done) []

end Fields

namespace Json

/-- The value under `key`; there is none in anything but an object. -/
def get? : Json → String → Option Json
  | object entries, key => Fields.get? entries key
  | _, _ => none

def text? : Json → Option String
  | text s => some s
  | _ => none

def finite? (x : Float) : Option Float := if x.isFinite then some x else none

/-- The double nearest to a whole number; a half goes to the even neighbour. -/
def ofWhole (n : Int) : Float :=
  if 0 ≤ n then Float.ofNat n.toNat else -Float.ofNat n.natAbs

def float? : Json → Option Float
  | whole n => finite? (ofWhole n)
  | real x => finite? x
  | _ => none

def textAt? (json : Json) (key : String) : Option String := json.get? key >>= text?

mutual

/-- How many arrays and objects are open at the deepest point. -/
def depth : Json → Nat
  | array items => itemsDepth items + 1
  | object entries => entriesDepth entries + 1
  | _ => 0

def itemsDepth : List Json → Nat
  | [] => 0
  | item :: rest => max item.depth (itemsDepth rest)

def entriesDepth : Fields → Nat
  | [] => 0
  | (_, value) :: rest => max value.depth (entriesDepth rest)

end

end Json

end DeviceRules
