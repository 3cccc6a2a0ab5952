import Datalogger.Data.Decode
import Datalogger.Program

/-!
The exchanged form of settings and requests: how they are read from data values, and the data values
that are written for them. Writing leaves out what is absent or empty, except that the naming of
variables is always written; reading fills the gaps, so a written value reads back.
-/

namespace Datalogger

open Decode

def Json.ofFields (fields : List (String × Option Json)) : Json :=
  .obj (fields.filterMap fun (k, v) => v.map (k, ·))

def Json.ofDict {α : Type} (value : α → Json) (d : Dict α) : Json :=
  .obj (d.entries.map fun (k, v) => (k, value v))

def Json.ofNonempty {α : Type} (value : α → Json) (d : Dict α) : Option Json :=
  if d.isEmpty then none else some (.ofDict value d)

def Json.ofOption {α : Type} (value : α → Json) (o : Option α) : Json :=
  o.elim .null value

namespace TimeUnit

def spellings : List (String × TimeUnit) :=
  [("uSec", microseconds), ("usec", microseconds), ("mSec", milliseconds), ("msec", milliseconds),
    ("Sec", seconds), ("sec", seconds), ("Min", minutes), ("min", minutes), ("Hr", hours),
    ("hr", hours), ("Day", days), ("day", days)]

def decode (f : Format) (v : Json) : Option TimeUnit :=
  choice f spellings v

def encode (u : TimeUnit) : Json := .str u.text

end TimeUnit

namespace Scan

def decode (f : Format) (v : Json) : Option Scan := do
  let fs ← fields f ["interval", "unit", "buffer", "count"] v
  let interval ← defaulted fs "interval" nat32 standard.interval
  let unit ← defaulted fs "unit" (TimeUnit.decode f) standard.unit
  let buffer ← defaulted fs "buffer" nat32 standard.buffer
  let count ← defaulted fs "count" nat32 standard.count
  return ⟨interval, unit, buffer, count⟩

def encode (s : Scan) : Json :=
  .obj [("interval", .int s.interval), ("unit", s.unit.encode), ("buffer", .int s.buffer),
    ("count", .int s.count)]

end Scan

namespace Terminal

def decode (v : Json) : Option Terminal :=
  (string v).bind read?

def encode (t : Terminal) : Json := .str t.label

end Terminal

namespace Sdi12Address

/-- A number stands for its decimal text. -/
def decode (v : Json) : Option Sdi12Address :=
  match integer Range.leastInt64 Range.greatestInt64 v with
  | some n => read? (intText n)
  | none => (string v).bind read?

def encode (a : Sdi12Address) : Json := .str a.text

end Sdi12Address

namespace NameInclusion

def spellings : List (String × NameInclusion) :=
  [none, sdi12, elevation, both].map fun m => (m.text, m)

def decode (f : Format) (v : Json) : Option NameInclusion :=
  choice f spellings v

def encode (m : NameInclusion) : Json := .str m.text

end NameInclusion

namespace ExecutionMode

def text : ExecutionMode → String
  | sequential => "sequential"
  | pipeline => "pipeline"

def decode (f : Format) (v : Json) : Option ExecutionMode :=
  choice f [("sequential", sequential), ("pipeline", pipeline)] v

def encode (m : ExecutionMode) : Json := .str m.text

end ExecutionMode

namespace DependencyTarget

def decode (f : Format) (v : Json) : Option DependencyTarget := do
  let fs ← fields f ["instrument", "variable"] v
  let instrument ← required fs "instrument" string
  let variableName ← required fs "variable" string
  return ⟨instrument, variableName⟩

def encode (t : DependencyTarget) : Json :=
  .obj [("instrument", .str t.instrument), ("variable", .str t.variableName)]

end DependencyTarget

namespace InstrumentSettings

def fieldNames : List String :=
  ["label", "elevation", "sdi12_address", "name_inclusion", "wiring", "params"]

def ofFields (f : Format) (fs : Fields) : Option InstrumentSettings := do
  let label ← optional fs "label" Decode.string
  let elevation ← optional fs "elevation" int32
  let address ← optional fs "sdi12_address" Sdi12Address.decode
  let nameInclusion ← defaulted fs "name_inclusion" (NameInclusion.decode f) .none
  let wiring ← defaulted fs "wiring" (dict (nullable Terminal.decode)) .empty
  let params ← defaulted fs "params" (dict anything) .empty
  return ⟨label, elevation, address, nameInclusion, wiring, params⟩

def decode (f : Format) (v : Json) : Option InstrumentSettings :=
  (fields f fieldNames v).bind (ofFields f)

def toFields (s : InstrumentSettings) : List (String × Option Json) :=
  [("label", s.label.map .str), ("elevation", s.elevation.map .int),
    ("sdi12_address", s.address.map Sdi12Address.encode),
    ("name_inclusion", some s.nameInclusion.encode),
    ("wiring", Json.ofNonempty (.ofOption Terminal.encode) s.wiring),
    ("params", Json.ofNonempty id s.params)]

def encode (s : InstrumentSettings) : Json :=
  .ofFields s.toFields

end InstrumentSettings

namespace InstrumentRequest

def decode (f : Format) (v : Json) : Option InstrumentRequest := do
  let fs ← fields f ["type_id", "settings", "dependencies"] v
  let typeId ← required fs "type_id" string
  let settings ← defaulted fs "settings" (InstrumentSettings.decode f) .standard
  let dependencies ← defaulted fs "dependencies" (dict (DependencyTarget.decode f)) .empty
  return ⟨typeId, settings, dependencies⟩

def encode (r : InstrumentRequest) : Json :=
  .ofFields
    [("type_id", some (.str r.typeId)), ("settings", some r.settings.encode),
      ("dependencies", Json.ofNonempty DependencyTarget.encode r.dependencies)]

/-- The flat form of a program definition, with the settings among the other fields. -/
def decodeFlat (f : Format) (v : Json) : Option InstrumentRequest := do
  let fs ← fields f ("type" :: InstrumentSettings.fieldNames ++ ["dependencies"]) v
  let typeId ← required fs "type" string
  let settings ← InstrumentSettings.ofFields f fs
  let dependencies ← defaulted fs "dependencies" (dict (DependencyTarget.decode f)) .empty
  return ⟨typeId, settings, dependencies⟩

def encodeFlat (r : InstrumentRequest) : Json :=
  .ofFields
    ([("type", some (.str r.typeId))] ++ r.settings.toFields ++
      [("dependencies", Json.ofNonempty DependencyTarget.encode r.dependencies)])

end InstrumentRequest

end Datalogger
