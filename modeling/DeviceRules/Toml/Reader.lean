import DeviceRules.Toml.Scalar
import DeviceRules.Toml.Tree

/-! Reading TOML documents. A document is a table, and is handed out as a JSON object. -/
namespace DeviceRules.Toml

/-- Drops blanks, line ends and comments, as they stand between the items of an array. -/
def skipGaps : Nat → List Char → List Char
  | 0, cs => cs
  | fuel + 1, cs =>
      match skipComment (skipSpace cs) with
      | [] => []
      | c :: rest =>
          match newline? (c :: rest) with
          | some rest => skipGaps fuel rest
          | none => c :: rest

mutual

/-- A value, with `limit` arrays and tables still to be opened. `fuel` is a bound on the number of characters. -/
def value? (limit : Nat) : Nat → List Char → Option (Json × List Char)
  | 0, _ => none
  | _, [] => none
  | fuel + 1, c :: rest =>
      if c = '"' ∨ c = '\'' then (text? (c :: rest)).map fun (s, rest) => (.text s, rest)
      else if c = '[' then
        match limit with
        | 0 => none
        | limit + 1 => (items? limit fuel rest).map fun (items, rest) => (.array items, rest)
      else if c = '{' then
        match limit with
        | 0 => none
        | limit + 1 =>
            match skipSpace rest with
            | '}' :: rest => some (.object [], rest)
            | rest => (pairs? limit [] fuel rest).map fun (entries, rest) => (.object (fieldsOf entries), rest)
      else if c = 't' then (after? ['r', 'u', 'e'] rest).map fun rest => (.bool true, rest)
      else if c = 'f' then (after? ['a', 'l', 's', 'e'] rest).map fun rest => (.bool false, rest)
      else numeric? (c :: rest)

/-- The items up to the closing bracket; a comma may stand after the last. -/
def items? (limit : Nat) : Nat → List Char → Option (List Json × List Char)
  | 0, _ => none
  | fuel + 1, cs =>
      match skipGaps (cs.length + 1) cs with
      | ']' :: rest => some ([], rest)
      | cs => do
          let (item, rest) ← value? limit fuel cs
          match skipGaps (rest.length + 1) rest with
          | ']' :: rest => some ([item], rest)
          | ',' :: rest => do
              let (items, rest) ← items? limit fuel rest
              some (item :: items, rest)
          | _ => none

/-- The entries up to the closing brace, all on one line; there is at least one. -/
def pairs? (limit : Nat) (entries : Entries) : Nat → List Char → Option (Entries × List Char)
  | 0, _ => none
  | fuel + 1, cs => do
      let (path, key, rest) ← key? cs
      let '=' :: rest := rest | none
      let (json, rest) ← value? limit fuel (skipSpace rest)
      let entries ← entries.assign path key json .explicit
      match skipSpace rest with
      | '}' :: rest => some (entries, rest)
      | ',' :: rest => pairs? limit entries fuel rest
      | _ => none

end

/-- The document so far, and the table that the last header has opened. -/
structure State where
  root : Entries
  current : List String

/-- A header, or a key with its value, up to what may follow it on the line. -/
def statement? (state : State) (cs : List Char) : Option (State × List Char) :=
  match cs with
  | '[' :: '[' :: rest => do
      let (path, key, rest) ← key? rest
      let ']' :: ']' :: rest := rest | none
      some (⟨← state.root.openItem path key, path ++ [key]⟩, rest)
  | '[' :: rest => do
      let (path, key, rest) ← key? rest
      let ']' :: rest := rest | none
      some (⟨← state.root.openTable path key, path ++ [key]⟩, rest)
  | cs => do
      let (path, key, rest) ← key? cs
      let '=' :: rest := rest | none
      let (json, rest) ← value? depthLimit (2 * rest.length + 2) (skipSpace rest)
      let root ← Entries.edit false (Entries.assign path key json) state.current .explicit state.root
      some ({ state with root }, rest)

/-- The lines of a document. `fuel` is a bound on their number. -/
def lines (state : State) : Nat → List Char → Option State
  | 0, _ => none
  | fuel + 1, cs => do
      let cs := skipSpace cs
      let empty := match cs with
        | [] => true
        | c :: _ => c == '#' || c == '\n' || c == '\r'
      let (state, cs) ← if empty then some (state, cs) else statement? state cs
      match skipComment (skipSpace cs) with
      | [] => some state
      | rest => do lines state fuel (← newline? rest)

/-- The document written in `s`. A byte order mark may stand in front. -/
def ofText? (s : String) : Option Json := do
  let cs := match s.toList with
    | '\ufeff' :: rest => rest
    | cs => cs
  let state ← lines ⟨[], []⟩ (cs.length + 1) cs
  some (.object (fieldsOf state.root))

end DeviceRules.Toml
