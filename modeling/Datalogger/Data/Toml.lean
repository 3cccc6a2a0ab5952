import Datalogger.Data.Json

/-!
TOML documents as trees. A table remembers how it came about, because that decides what may still be
added to it: a header may complete a table that only stood on the path of another header, and dotted
keys may only extend tables that dotted keys made. A finished document is a JSON object, in which a
date or time is an object with one reserved key.
-/

namespace Datalogger

namespace Toml

inductive Origin where
  /-- On the path of a header. -/
  | implied
  /-- By dotted keys. -/
  | dotted
  /-- By its own header. -/
  | declared
  deriving DecidableEq

inductive Node where
  | value (v : Json)
  | table (origin : Origin) (entries : List (String × Node))
  | tables (elements : List (List (String × Node)))

abbrev Entries := List (String × Node)

def replace (key : String) (node : Node) (entries : Entries) : Entries :=
  if entries.any (·.1 = key) then
    entries.map fun e => if e.1 = key then (key, node) else e
  else entries ++ [(key, node)]

/-- Adds a value under dotted keys. The table that takes it must be the one that is being filled, or
one that dotted keys made. -/
def put (takes : Bool) (key : String) (v : Json) : List String → Entries → Option Entries
  | [], entries =>
    if takes && !entries.any (·.1 = key) then some (entries ++ [(key, .value v)]) else none
  | k :: path, entries =>
    match entries.lookup k with
    | none => (put true key v path []).map fun inner => entries ++ [(k, .table .dotted inner)]
    | some (.table .declared _) => none
    | some (.table origin inner) =>
      (put (origin = .dotted) key v path inner).map fun inner =>
        replace k (.table origin inner) entries
    | some (.tables elements) =>
      (put false key v path (elements.getLast?.getD [])).map fun last =>
        replace k (.tables (elements.dropLast ++ [last])) entries
    | some (.value _) => none

def putEach : List (List String × String × Json) → Entries → Option Entries
  | [], entries => some entries
  | (path, key, v) :: rest, entries => (put true key v path entries).bind (putEach rest)

/-- Works on the table at the path of a header; an array of tables stands for its last element. -/
def within (change : Entries → Option Entries) : List String → Entries → Option Entries
  | [], entries => change entries
  | k :: path, entries =>
    match entries.lookup k with
    | none => (within change path []).map fun inner => entries ++ [(k, .table .implied inner)]
    | some (.table origin inner) =>
      (within change path inner).map fun inner => replace k (.table origin inner) entries
    | some (.tables elements) =>
      (within change path (elements.getLast?.getD [])).map fun last =>
        replace k (.tables (elements.dropLast ++ [last])) entries
    | some (.value _) => none

structure Block where
  isArray : Bool
  path : List String
  key : String
  values : List (List String × String × Json)

def declare (b : Block) (entries : Entries) : Option Entries :=
  match entries.lookup b.key with
  | none => (putEach b.values []).map fun inner => replace b.key (.table .declared inner) entries
  | some (.table .implied inner) =>
    (putEach b.values inner).map fun inner => replace b.key (.table .declared inner) entries
  | _ => none

def append (b : Block) (entries : Entries) : Option Entries :=
  match entries.lookup b.key with
  | none => (putEach b.values []).map fun inner => replace b.key (.tables [inner]) entries
  | some (.tables elements) =>
    (putEach b.values []).map fun inner => replace b.key (.tables (elements ++ [inner])) entries
  | _ => none

def addBlock (b : Block) (entries : Entries) : Option Entries :=
  within (if b.isArray then append b else declare b) b.path entries

def addBlocks : List Block → Entries → Option Entries
  | [], entries => some entries
  | b :: rest, entries => (addBlock b entries).bind (addBlocks rest)

mutual

def Node.toJson : Node → Json
  | .value v => v
  | .table _ entries => .obj (entriesToJson entries)
  | .tables elements => .arr (elementsToJson elements)

def entriesToJson : List (String × Node) → List (String × Json)
  | [] => []
  | (k, n) :: rest => (k, n.toJson) :: entriesToJson rest

def elementsToJson : List (List (String × Node)) → List Json
  | [] => []
  | entries :: rest => .obj (entriesToJson entries) :: elementsToJson rest

end

/-- An inline table is complete once it is closed. -/
def inlineTable (values : List (List String × String × Json)) : Option Json :=
  (putEach values []).map fun entries => .obj (entriesToJson entries)

def document (values : List (List String × String × Json)) (blocks : List Block) : Option Json := do
  let root ← putEach values []
  let entries ← addBlocks blocks root
  return .obj (entriesToJson entries)

def datetimeKey : String := "$__toml_private_datetime"

end Toml

end Datalogger
