import Datalogger.Instrument
import Datalogger.Program
import Datalogger.SlowSequence
import Datalogger.Table
import Datalogger.Text.Indent

/-!
The program document. Its sections come in the one order that the logger accepts: header, system
configuration, wiring, declarations, directives, tables, functions, and the program body; one blank
line separates them and empty sections are left out.
-/

namespace Datalogger

open Text (joinLines indent)

structure Document where
  name : String
  options : ProgramOptions
  instruments : List Parts
  tables : List (Table String)
  sequences : List (SlowSequence String)
  preScan : List String
  program : List String
  postScan : List String
  functions : List String

namespace Document

def header (d : Document) : String :=
  joinLines (["'Program: " ++ d.name, "'Date: " ++ d.options.created.text] ++
    (d.options.station.map ("'Station: " ++ ·)).toList)

/-- An id is shown only when it is not the type id. -/
def systemLine (p : Parts) : String :=
  let d := p.descriptor
  "'" ++ d.category ++ ": " ++ d.manufacturer ++ " " ++ d.model ++
    if p.id = d.typeId then "" else " (" ++ p.id ++ ")"

def systemConfiguration (d : Document) : String :=
  joinLines ("'System Configuration" :: d.instruments.map systemLine)

def wiringBlock (p : Parts) : String :=
  let d := p.descriptor
  "'Wiring: " ++ p.id ++ " (" ++ d.manufacturer ++ " " ++ d.model ++ ")\n" ++ p.wiring.diagram

def wiringBlocks (d : Document) : List String :=
  (d.instruments.filter fun p => !p.wiring.isEmpty).map wiringBlock

def declarations (d : Document) : List String :=
  d.instruments.flatMap fun p => p.vars.lines

def directives (d : Document) : List String :=
  (if d.options.preserveVariables then ["PreserveVariables"] else []) ++ [d.options.mode.directive]

/-- The program body: one scan that runs the logic and calls the tables, then the slow sequences. -/
def bodyParts (d : Document) : List String :=
  ["BeginProg"] ++ d.preScan.map (indent · 1) ++ [indent d.options.scan.text 1] ++
    d.program.map (indent · 2) ++ d.tables.map (fun t => indent t.callStatement 2) ++
    d.postScan.map (indent · 2) ++ [indent "NextScan" 1] ++
    d.sequences.flatMap (fun s => ["", indent s.text 1]) ++ ["EndProg"]

def commentSections (d : Document) : List String :=
  [d.header, d.systemConfiguration] ++ d.wiringBlocks

def codeSections (d : Document) : List String :=
  (if d.declarations = [] then [] else [joinLines d.declarations]) ++ [joinLines d.directives] ++
    d.tables.map Table.text ++ d.functions ++ [joinLines d.bodyParts]

def text (d : Document) : String :=
  "\n\n".intercalate (d.commentSections ++ d.codeSections) ++ "\n"

end Document

end Datalogger
