import DeviceRules.Database.Location
import DeviceRules.Database.Rules
import DeviceRules.Database.Telemetry
import DeviceRules.FileTree

/-! Opening and closing databases on a disk. A database in a file is there again when it is opened once more, one
in memory is not. A file is made when it is missing, but no directory is.

A database is used through connections that are handed out in turn. One comes back while the next is in use, so
that two of them serve all calls. The tables are made through the first of them: where each connection has a
database of its own, the other one finds no tables. -/
namespace DeviceRules

structure Tables where
  rules : RuleTable
  telemetry : TelemetryTables

def Tables.empty : Tables := ⟨.empty, .empty⟩

abbrev Disk := FileTree Tables

inductive Storage
  | file (path : Path)
  | sharedMemory
  /-- A database for each connection. -/
  | apart
  deriving DecidableEq, Repr

/-- The directories and the name that a written path means. Unlike in a walk, the directories on the way need not
be there, so long as no name is looked for in a file. -/
def Disk.resolve? (disk : Disk) (written : String) : Option Path :=
  (Path.names written).foldlM (fun path name =>
    if name = "" ∨ name = "." then some path
    else if name = ".." then some path.dropLast
    else if Path.longestName < name.utf8ByteSize ∨ (disk.content? path).isSome then none
    else some (path ++ [name])) (disk.origin written)

def journalSuffix : String := "-journal"

/-- The path of a file, with its journal, in a directory that is there. -/
def Disk.file? (disk : Disk) (written : String) : Option Path := do
  let path ← disk.resolve? written
  let name ← path.getLast?
  if disk.isDirectory path.dropLast ∧ ¬ disk.isDirectory path ∧
      name.utf8ByteSize + journalSuffix.utf8ByteSize ≤ Path.longestName then some path
  else none

namespace DatabaseLocation

/-- The layer that keeps files in memory. -/
def memoryLayer : String := "memdb"

def layers : List String := ["unix", "unix-dotfile", "unix-excl", "unix-none", memoryLayer]

/-- What a database is kept in, if it can be written. One in memory is shared when it has a name and was asked to
be, and one in the memory layer also when its path starts at the root. -/
def storage? (location : DatabaseLocation) (disk : Disk) : Option Storage :=
  let memory (shared : Bool) : Option Storage := some (if shared then .sharedMemory else .apart)
  if location.access = .read ∨ !location.layer.all layers.contains then none
  else if location.inMemory ∨ location.name = ":memory:" then
    memory (location.addressed && location.shared && location.name != "")
  else if location.name = "" then some .apart
  else if location.immutable then none
  else if location.layer = some memoryLayer then
    memory (location.shared || (1 < location.name.length && location.name.startsWith "/"))
  else do
    let path ← disk.file? location.name
    if location.access = .create ∨ (disk.content? path).isSome then some (.file path) else none

end DatabaseLocation

structure Database where
  path : Option Path
  /-- What the next connection finds, which is nothing where the tables were not made. -/
  tables : Option Tables
  /-- What the connections after it find, if they do not all find the same. -/
  later : List (Option Tables)
  isOpen : Bool

namespace Database

/-- Opens the database of a location and brings its tables up to date. -/
def openAt (disk : Disk) (location : DatabaseLocation) : Option Database :=
  (location.storage? disk).map fun
    | .file path => ⟨some path, some ((disk.content? path).getD .empty), [], true⟩
    | .sharedMemory => ⟨none, some .empty, [], true⟩
    | .apart => ⟨none, none, [some .empty], true⟩

def openUrl (disk : Disk) (url : String) : Option Database :=
  (DatabaseLocation.ofUrl? url).bind (openAt disk)

/-- Closes a database; what is in a file stays there. -/
def close (db : Database) (disk : Disk) : Database × Disk :=
  ({ db with isOpen := false }, match db.path, db.tables with
    | some path, some tables => disk.put path tables
    | _, _ => disk)

/-- The connection in use goes to the end of the line and leaves `tables` behind. -/
def turn (db : Database) (tables : Option Tables) : Database :=
  match db.later with
  | [] => { db with tables }
  | next :: rest => { db with tables := next, later := rest ++ [tables] }

/-- Runs a call through the next connection. What is asked of a closed database is refused. -/
def call {α : Type} (db : Database) (action : Tables → Except Fault (α × Tables)) : Except Fault α × Database :=
  if db.isOpen then
    match db.tables with
    | none => (.error (.outage (.refused "no such table")), db.turn none)
    | some tables =>
        match action tables with
        | .ok (answer, tables) => (.ok answer, db.turn (some tables))
        | .error fault => (.error fault, db.turn (some tables))
  else (.error (.outage (.refused "attempted to acquire a connection on a closed pool")), db)

/-- Adds a rule. One that is not valid is not brought to a connection. -/
def insert (db : Database) (rule : Rule) : Except Fault Unit × Database :=
  match rule.validate with
  | .error fault => (.error fault, db)
  | .ok () => db.call fun tables => do
      let rules ← tables.rules.insert rule
      return ((), { tables with rules })

def setActive (db : Database) (id : RuleId) (active : Bool) : Except Fault Bool × Database :=
  db.call fun tables =>
    let (known, rules) := tables.rules.setActive id active
    .ok (known, { tables with rules })

def count (db : Database) : Except Fault Nat × Database :=
  db.call fun tables => .ok (tables.rules.count, tables)

def activeRules (db : Database) : Except Fault (Traced (List Rule)) × Database :=
  db.call fun tables => .ok (tables.rules.activeRules, tables)

end Database

end DeviceRules
