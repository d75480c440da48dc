import DeviceRules.Json.Basic

/-! The tables of a TOML document while it is read. How a table came about decides whether it may be added to: a
table that has its own header, or that was written as a value, is complete, while one that exists only because a
longer name runs through it may still be opened. -/
namespace DeviceRules.Toml

inductive TableKind
  /-- It has its own header. -/
  | explicit
  /-- A header names one of its subtables. -/
  | implicit
  /-- A dotted key runs through it. -/
  | dotted
  deriving DecidableEq, Repr

inductive Node
  | value (json : Json)
  | table (kind : TableKind) (entries : List (String × Node))
  /-- An array of tables, with the one that was opened last in front. -/
  | tables (items : List (List (String × Node)))

abbrev Entries := List (String × Node)

namespace Entries

def replace (key : String) (node : Node) : Entries → Entries
  | [] => []
  | (k, old) :: rest => if k = key then (k, node) :: rest else (k, old) :: replace key node rest

/-- Changes the table at the end of `path`, starting from a table of this kind. Tables that are missing on the way
are made. A dotted key may not run through a table with a header; a path goes into the last table of an array. -/
def edit (dotted : Bool) (change : TableKind → Entries → Option Entries) :
    List String → TableKind → Entries → Option Entries
  | [], kind, entries => change kind entries
  | key :: rest, _, entries =>
      match entries.lookup key with
      | none => do
          let kind := if dotted then .dotted else .implicit
          let inner ← edit dotted change rest kind []
          some (entries ++ [(key, .table kind inner)])
      | some (.table kind inner) =>
          if dotted && kind = .explicit then none
          else do
            let inner ← edit dotted change rest kind inner
            some (entries.replace key (.table kind inner))
      | some (.tables (last :: before)) => do
          let last ← edit dotted change rest .explicit last
          some (entries.replace key (.tables (last :: before)))
      | some _ => none

/-- Sets a new key in the table at the end of a dotted path. A dotted path ends in a table that only dotted keys
have made. -/
def assign (path : List String) (key : String) (json : Json) : TableKind → Entries → Option Entries :=
  edit true (fun kind entries =>
    if decide (kind = .dotted) == path.isEmpty then none
    else if (entries.lookup key).isSome then none
    else some (entries ++ [(key, .value json)])) path

/-- Opens the table of a header. It must be new, or known only from the headers of its subtables. -/
def openTable (path : List String) (key : String) : Entries → Option Entries :=
  edit false (fun _ entries =>
    match entries.lookup key with
    | none => some (entries ++ [(key, .table .explicit [])])
    | some (.table .implicit inner) => some (entries.replace key (.table .explicit inner))
    | some _ => none) path .explicit

def openItem (path : List String) (key : String) : Entries → Option Entries :=
  edit false (fun _ entries =>
    match entries.lookup key with
    | none => some (entries ++ [(key, .tables [[]])])
    | some (.tables items) => some (entries.replace key (.tables ([] :: items)))
    | some _ => none) path .explicit

end Entries

mutual

def Node.toJson : Node → Json
  | .value json => json
  | .table _ entries => .object (fieldsOf entries)
  | .tables items => .array (itemsOf items).reverse

def fieldsOf : List (String × Node) → Fields
  | [] => []
  | (key, node) :: rest => (key, node.toJson) :: fieldsOf rest

def itemsOf : List (List (String × Node)) → List Json
  | [] => []
  | entries :: rest => .object (fieldsOf entries) :: itemsOf rest

end

end DeviceRules.Toml
