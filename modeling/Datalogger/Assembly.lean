import Datalogger.Catalog
import Datalogger.Document
import Datalogger.Resolution
import Datalogger.Table.Merge

/-!
Assembly: from a request to the program document. All instruments are built first, then their names
are checked, their dependencies bound, and their contributions collected, merged and laid out. Each
stage is a precondition of the next, and the first error ends the run.
-/

namespace Datalogger

structure Contribution where
  id : String
  tables : Option (List (Table String))
  slowSequence : Option (SlowSequence String)
  preScan : Option String
  program : Option String
  postScan : Option String
  functions : Option (List String)

def Instrument.contribution (i : Instrument) (d : Deps) : Except Error Contribution := do
  let tables ← i.tables d
  let slowSequence ← i.slowSequence d
  let preScan ← i.preScan d
  let program ← i.program d
  let postScan ← i.postScan d
  let functions ← i.functions d
  return ⟨i.id, tables, slowSequence, preScan, program, postScan, functions⟩

namespace Assembly

/-- A function whose text was contributed before is left out. -/
def addFunction (functions : List String) (body : String) : List String :=
  if functions.contains body then functions else functions ++ [body]

def collectFunctions (contributions : List Contribution) : List String :=
  (contributions.flatMap fun c => c.functions.getD []).foldl addFunction []

def collectTables (contributions : List Contribution) : List (String × List (Table String)) :=
  contributions.filterMap fun c => c.tables.map (c.id, ·)

def collectSequences (contributions : List Contribution) : List (SlowSequence String) :=
  contributions.filterMap Contribution.slowSequence

/-- The facets of the instruments from a position on, each under its own bindings. -/
def contributionsFrom (bindings : Bindings) :
    Nat → List Instrument → Except Error (List Contribution)
  | _, [] => .ok []
  | position, i :: rest => do
    let c ← i.contribution (bindings.deps position i.id)
    return c :: (← contributionsFrom bindings (position + 1) rest)

def document (request : ProgramRequest) (instruments : List Instrument)
    (contributions : List Contribution) (tables : List (Table String)) : Document where
  name := request.name
  options := request.options
  instruments := instruments.map Instrument.parts
  tables := tables
  sequences := SlowSequence.group (collectSequences contributions)
  preScan := contributions.filterMap Contribution.preScan
  program := contributions.filterMap Contribution.program
  postScan := contributions.filterMap Contribution.postScan
  functions := collectFunctions contributions

end Assembly

open Assembly in
def assemble (catalog : Catalog) (request : ProgramRequest) : Except Error Document := do
  let instruments ← request.instruments.mapM fun r => catalog.instantiate r.typeId r.settings
  ensureUnique (instruments.map Instrument.vars)
  let bindings ← resolve instruments request.instruments
  let contributions ← contributionsFrom bindings 0 instruments
  let tables ← Table.merge (collectTables contributions)
  return document request instruments contributions tables

end Datalogger
