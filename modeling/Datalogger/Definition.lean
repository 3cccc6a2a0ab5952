import Datalogger.Configuration
import Datalogger.Path

/-!
Program definitions: files that name a program, may override its options, and list its instruments in
order. `request` turns one into what assembly takes; options that it leaves out come from defaults.
-/

namespace Datalogger

open Decode

structure ProgramDefinition where
  name : String
  station : Option String
  mode : Option ExecutionMode
  preserveVariables : Option Bool
  scan : Option Scan
  instruments : List InstrumentRequest

namespace ProgramDefinition

def decode (f : Format) (v : Json) : Option ProgramDefinition := do
  let fs ← fields f ["name", "station", "mode", "preserve_variables", "scan", "instruments"] v
  let name ← required fs "name" string
  let station ← optional fs "station" string
  let mode ← optional fs "mode" (ExecutionMode.decode f)
  let preserveVariables ← optional fs "preserve_variables" bool
  let scan ← optional fs "scan" (Scan.decode f)
  let instruments ← defaulted fs "instruments" (list (InstrumentRequest.decodeFlat f)) []
  return ⟨name, station, mode, preserveVariables, scan, instruments⟩

def encode (d : ProgramDefinition) : Json :=
  .ofFields
    [("name", some (.str d.name)), ("station", d.station.map .str),
      ("mode", d.mode.map ExecutionMode.encode),
      ("preserve_variables", d.preserveVariables.map .bool), ("scan", d.scan.map Scan.encode),
      ("instruments", some (.arr (d.instruments.map InstrumentRequest.encodeFlat)))]

/-- The position of the first instrument without a type, counted from one. -/
def untyped? (instruments : List InstrumentRequest) : Option Nat :=
  (instruments.findIdx? fun r => Text.isBlankText r.typeId).map (· + 1)

def fault? (d : ProgramDefinition) : Option String :=
  if Text.isBlankText d.name then some "program name must not be empty"
  else if !Configuration.onOneLine d.name then some "program name must fit on one line"
  else
    match untyped? d.instruments with
    | some n => some ("instrument #" ++ natText n ++ " has no type")
    | none =>
      if d.scan.any fun s => s.interval = 0 then some "scan.interval must be greater than 0"
      else none

def validate (d : ProgramDefinition) : Except ConfigError Unit :=
  match d.fault? with
  | some reason => .error (.invalid reason)
  | none => .ok ()

theorem validate_eq_ok_iff {d : ProgramDefinition} : d.validate = .ok () ↔ d.fault? = none := by
  unfold validate
  cases d.fault? <;> simp

/-- The station line falls back to the configured one. -/
def options (d : ProgramDefinition) (created : CalendarDate) (defaults : ProgramDefaults)
    (stationLine : Option String) : ProgramOptions where
  mode := d.mode.getD defaults.mode
  preserveVariables := d.preserveVariables.getD defaults.preserveVariables
  scan := d.scan.getD defaults.scan
  created := created
  station := d.station.or stationLine

def request (d : ProgramDefinition) (created : CalendarDate) (defaults : ProgramDefaults)
    (stationLine : Option String) : ProgramRequest where
  name := d.name
  options := d.options created defaults stationLine
  instruments := d.instruments

def format? (path : String) : Option Format :=
  match (Path.extension? path).map Text.fold with
  | some "toml" => some .toml
  | some "json" => some .json
  | _ => none

def ofText (path content : String) : Except ConfigError ProgramDefinition :=
  match format? path with
  | none => .error (.unknownFormat path)
  | some f =>
    match (f.read? content).bind (decode f) with
    | none => .error (.malformed path)
    | some d => do
      d.validate
      return d

def ofSource (path : String) (source : Source) : Except ConfigError ProgramDefinition :=
  match source.text? with
  | .error reason => .error (.unreadable path reason)
  | .ok content => ofText path content

end ProgramDefinition

end Datalogger
