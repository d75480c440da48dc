import DeviceRules.Text.Percent

/-! Where a database is. The address of a database has a scheme, a name, and parameters after a question mark. The
name is a path, unless it starts with `file:`: then it is an address in turn, with parameters of its own that say
more than those around it. -/
namespace DeviceRules

/-- What may be done with a database: it is read, written, or made when it is missing. -/
inductive DatabaseAccess
  | read
  | write
  | create
  deriving DecidableEq, Repr

/-- Where a database is, and what may be done with it. -/
structure DatabaseLocation where
  /-- The path as it is written. A database without one is in a file that only its connection knows. -/
  name : String
  /-- Whether the name was part of a `file:` address. -/
  addressed : Bool := false
  access : DatabaseAccess := .create
  inMemory : Bool := false
  /-- Whether connections to a database in memory may share it. -/
  shared : Bool := false
  /-- The files are taken never to change, so that nothing can be written. -/
  immutable : Bool := false
  layer : Option String := none
  deriving DecidableEq, Repr

namespace DatabaseAccess

/-- More may be done from one to the next. -/
def rank : DatabaseAccess → Nat
  | read => 0
  | write => 1
  | create => 2

def ofName? : String → Option DatabaseAccess
  | "ro" => some read
  | "rw" => some write
  | "rwc" => some create
  | _ => none

end DatabaseAccess

namespace DatabaseLocation

/-- A database in memory that all connections of one opening share. -/
def memory : DatabaseLocation := { name := "file::memory:", inMemory := true, shared := true }

/-- `cs` without any repetition of `word` in front. `fuel` is a bound on their number. -/
def dropWord (word : List Char) : Nat → List Char → List Char
  | 0, cs => cs
  | fuel + 1, cs => if word.isPrefixOf cs then dropWord word fuel (cs.drop word.length) else cs

def withoutScheme (url : String) : List Char :=
  let cs := url.toList
  dropWord "sqlite:".toList cs.length (dropWord "sqlite://".toList cs.length cs)

/-- The values of a parameter that can be switched on and off. -/
def switch? : String → Option Bool
  | "true" | "1" => some true
  | "false" | "0" => some false
  | _ => none

def withCache (location : DatabaseLocation) : String → Option DatabaseLocation
  | "private" => some { location with shared := false }
  | "shared" => some { location with shared := true }
  | _ => none

/-- A location with one more parameter, if the parameter and its value are known. A missing file is made whatever
the mode says, unless it is to be read only. -/
def withParameter (location : DatabaseLocation) (name value : String) : Option DatabaseLocation :=
  match name with
  | "mode" =>
      match value with
      | "ro" => some { location with access := .read }
      | "rw" | "rwc" => some location
      | "memory" => some { location with inMemory := true, shared := true }
      | _ => none
  | "cache" => location.withCache value
  | "immutable" => (switch? value).map fun immutable => { location with immutable }
  | "vfs" => some { location with layer := some value }
  | _ => none

def beforeNul (s : String) : String := String.ofList (s.toList.takeWhile (· != '\x00'))

/-- A part of an address; a NUL ends it. -/
def part? (cs : List Char) : Option String := beforeNul <$> Text.percentText? (String.ofList cs)

/-- Whether the value of a parameter switches it on: a word for yes, or a number whose lowest byte is not zero. -/
def isOn (value : String) : Bool :=
  ["on", "yes", "true"].contains value.toLower || (Json.natural value.toList).1 % 256 != 0

/-- A location with one more parameter of a `file:` address. A mode may not allow more than what is allowed
already. Other parameters are passed over. -/
def withInnerParameter (location : DatabaseLocation) (name value : String) : Option DatabaseLocation :=
  match name with
  | "mode" =>
      if value = "memory" then some { location with access := .create, inMemory := true }
      else do
        let access ← DatabaseAccess.ofName? value
        if location.inMemory ∨ access.rank ≤ location.access.rank then
          some { location with access, inMemory := false }
        else none
  | "cache" => location.withCache value
  | "immutable" => some { location with immutable := isOn value }
  | "vfs" => some { location with layer := some value }
  | _ => some location

/-- What comes after the host of a `file:` address, which can only be this one. -/
def withoutHost? : List Char → Option (List Char)
  | '/' :: '/' :: rest =>
      let host := String.ofList (rest.takeWhile (· != '/'))
      if host = "" ∨ host = "localhost" then some (rest.dropWhile (· != '/')) else none
  | rest => some rest

/-- The location that a name leads to. With a layer or an immutable file the name is a path in any case. -/
def followed? (location : DatabaseLocation) : Option DatabaseLocation :=
  if location.immutable || location.layer.isSome then
    some { location with
      name := beforeNul location.name, layer := location.layer.map beforeNul, addressed := true }
  else if location.name.contains '\x00' then none
  else
    let cs := location.name.toList
    if "file:".toList.isPrefixOf cs then do
      let (address, _) := Text.cut '#' (← withoutHost? (cs.drop 5))
      let (path, parameters) := Text.cut '?' address
      let pairs ← (Text.pieces '&' (parameters.getD [])).mapM fun piece => do
        let (name, value) := Text.cut '=' piece
        some (← part? name, ← part? (value.getD []))
      let location := { location with name := ← part? path, addressed := true }
      (pairs.filter (·.1 ≠ "")).foldlM (fun location (name, value) => location.withInnerParameter name value) location
    else some location

/-- The location that an address names, if all of its parameters are known. -/
def ofUrl? (url : String) : Option DatabaseLocation := do
  let (name, parameters) := Text.cut '?' (withoutScheme url)
  let name := String.ofList name
  let location ← if name = ":memory:" then some memory
    else (Text.percentText? name).map fun name => { name }
  let pairs ← Text.formPairs? (String.ofList (parameters.getD []))
  let location ← pairs.foldlM (fun location (name, value) => location.withParameter name value) location
  location.followed?

end DatabaseLocation

end DeviceRules
