import Datalogger.Data.Json
import Datalogger.Naming
import Datalogger.Terminal

/-!
Settings of one instrument: its label, where it stands, its bus address, how its variables are named,
which terminals its wires go to, and parameters that only its type knows.
-/

namespace Datalogger

open Text (trim)

/-- A bus address is one ASCII letter or digit. -/
structure Sdi12Address where
  symbol : Char
  alphanumeric : symbol.isAlphanum = true
  deriving DecidableEq

namespace Sdi12Address

def ofChar? (c : Char) : Option Sdi12Address :=
  if h : c.isAlphanum = true then some ⟨c, h⟩ else none

def read? (text : String) : Option Sdi12Address :=
  match (trim text).toList with
  | [c] => ofChar? c
  | _ => none

def read (text : String) : Except Error Sdi12Address :=
  match read? text with
  | some a => .ok a
  | none => .error (.invalidAddress text)

def text (a : Sdi12Address) : String :=
  a.symbol.toString

end Sdi12Address

structure InstrumentSettings where
  /-- The id of the instance; the type id serves when there is none. -/
  label : Option String
  /-- In centimetres, negative below ground. -/
  elevation : Option Int
  address : Option Sdi12Address
  nameInclusion : NameInclusion
  /-- Terminals by wire role; `none` keeps an unconnected role as it is. -/
  wiring : Dict (Option Terminal)
  params : Dict Json

namespace InstrumentSettings

def standard : InstrumentSettings :=
  ⟨none, none, none, .none, .empty, .empty⟩

instance : Inhabited InstrumentSettings := ⟨standard⟩

def requireAddress (s : InstrumentSettings) (instrument : String) : Except Error Sdi12Address :=
  match s.address with
  | some a => .ok a
  | none =>
    .error (.instrumentConfig instrument "sdi12_address"
      "this is an SDI-12 device and needs a bus address")

def requireElevation (s : InstrumentSettings) (instrument : String) : Except Error Int :=
  match s.elevation with
  | some e => .ok e
  | none =>
    .error (.instrumentConfig instrument "elevation"
      "this device is deployed at depth and needs an elevation")

def numberOf : Json → Option Binary64
  | .int n => some (.ofInt n)
  | .real x => some x
  | _ => none

def textOf : Json → Option String
  | .str s => some s
  | _ => none

/-- A parameter of a given sort, or the default when it is absent. -/
def param {α : Type} (sort : String) (convert : Json → Option α) (s : InstrumentSettings)
    (instrument name : String) (default : Option α) : Except Error α :=
  match s.params.get? name with
  | some value =>
    match convert value with
    | some x => .ok x
    | none =>
      .error (.instrumentConfig instrument name
        ("expected a " ++ sort ++ ", got " ++ value.text))
  | none =>
    match default with
    | some x => .ok x
    | none => .error (.instrumentConfig instrument name "required parameter not supplied")

def number (s : InstrumentSettings) (instrument name : String) (default : Option Binary64) :
    Except Error Binary64 :=
  s.param "number" numberOf instrument name default

def string (s : InstrumentSettings) (instrument name : String) (default : Option String) :
    Except Error String :=
  s.param "string" textOf instrument name default

def suffix (s : InstrumentSettings) (instrument : String) : Except Error (Option String) :=
  s.nameInclusion.suffix instrument (s.address.map Sdi12Address.text) s.elevation

end InstrumentSettings

end Datalogger
