import Datalogger.ConfigError
import Datalogger.Data.TomlWriter
import Datalogger.Exchange.Settings
import Datalogger.Source

/-!
The configuration: the station line of every header, program options for definitions that leave them
out, the external compile check, and how written programs are named. Environment variables override
single settings; a configuration is validated after it was read and again after they were applied.
-/

namespace Datalogger

open Decode

structure ProgramDefaults where
  mode : ExecutionMode
  preserveVariables : Bool
  scan : Scan
  deriving DecidableEq, Repr

structure CompilerSettings where
  /-- There is no compile check without a command. -/
  command : Option String
  /-- Arguments before the path of the program. -/
  args : List String
  deriving DecidableEq, Repr

structure Configuration where
  stationLine : Option String
  defaults : ProgramDefaults
  compiler : CompilerSettings
  /-- The file extension of written programs. -/
  extension : String
  deriving DecidableEq, Repr

namespace ProgramDefaults

def standard : ProgramDefaults := ⟨.sequential, false, .standard⟩

def decode (f : Format) (v : Json) : Option ProgramDefaults := do
  let fs ← fields f ["mode", "preserve_variables", "scan"] v
  let mode ← defaulted fs "mode" (ExecutionMode.decode f) standard.mode
  let preserveVariables ← defaulted fs "preserve_variables" bool standard.preserveVariables
  let scan ← defaulted fs "scan" (Scan.decode f) standard.scan
  return ⟨mode, preserveVariables, scan⟩

def encode (d : ProgramDefaults) : Json :=
  .obj [("mode", d.mode.encode), ("preserve_variables", .bool d.preserveVariables),
    ("scan", d.scan.encode)]

end ProgramDefaults

namespace CompilerSettings

def standard : CompilerSettings := ⟨none, []⟩

def decode (f : Format) (v : Json) : Option CompilerSettings := do
  let fs ← fields f ["command", "args"] v
  let command ← optional fs "command" string
  let args ← defaulted fs "args" (list string) []
  return ⟨command, args⟩

def encode (c : CompilerSettings) : Json :=
  .ofFields [("command", c.command.map .str), ("args", some (.arr (c.args.map .str)))]

end CompilerSettings

def compilerVariable : String := "LOGGERFORGE_COMPILER"

def scanIntervalVariable : String := "LOGGERFORGE_SCAN_INTERVAL"

namespace Configuration

def standardExtension : String := "CR1X"

def standard : Configuration := ⟨none, .standard, .standard, standardExtension⟩

def decodeExtension (f : Format) (v : Json) : Option String := do
  let fs ← fields f ["extension"] v
  defaulted fs "extension" string standardExtension

def decode (f : Format) (v : Json) : Option Configuration := do
  let fs ← fields f ["station_prefix", "defaults", "compiler", "output"] v
  let stationLine ← optional fs "station_prefix" string
  let defaults ← defaulted fs "defaults" (ProgramDefaults.decode f) .standard
  let compiler ← defaulted fs "compiler" (CompilerSettings.decode f) .standard
  let extension ← defaulted fs "output" (decodeExtension f) standardExtension
  return ⟨stationLine, defaults, compiler, extension⟩

def encode (c : Configuration) : Json :=
  .ofFields
    [("station_prefix", c.stationLine.map .str), ("defaults", some c.defaults.encode),
      ("compiler", some c.compiler.encode),
      ("output", some (.obj [("extension", .str c.extension)]))]

def toml (c : Configuration) : String :=
  let s := c.defaults.scan
  (c.stationLine.elim "" fun line => Toml.pair "station_prefix" (Toml.string line) ++ "\n") ++
  "[defaults]\n" ++
  Toml.pair "mode" (Toml.string c.defaults.mode.text) ++
  Toml.pair "preserve_variables" (Toml.bool c.defaults.preserveVariables) ++
  "\n[defaults.scan]\n" ++
  Toml.pair "interval" (natText s.interval) ++
  Toml.pair "unit" (Toml.string s.unit.text) ++
  Toml.pair "buffer" (natText s.buffer) ++
  Toml.pair "count" (natText s.count) ++
  "\n[compiler]\n" ++
  (c.compiler.command.elim "" fun command => Toml.pair "command" (Toml.string command)) ++
  Toml.pair "args" (Toml.stringArray c.compiler.args) ++
  "\n[output]\n" ++
  Toml.pair "extension" (Toml.string c.extension)

def onOneLine (s : String) : Bool :=
  s.toList.all fun c => c ≠ '\n' && c ≠ '\r'

def isExtension (s : String) : Bool :=
  s ≠ "" && s.toList.all Char.isAlphanum

def fault? (c : Configuration) : Option String :=
  if c.defaults.scan.interval = 0 then some "defaults.scan.interval must be greater than 0"
  else if c.stationLine.any fun s => !onOneLine s then some "station_prefix must fit on one line"
  else if c.compiler.command.any Text.isBlankText then some "compiler.command must not be empty"
  else if !isExtension c.extension then
    some ("output.extension must be alphanumeric, got '" ++ c.extension ++ "'")
  else none

def validate (c : Configuration) : Except ConfigError Unit :=
  match c.fault? with
  | some reason => .error (.invalid reason)
  | none => .ok ()

theorem validate_eq_ok_iff {c : Configuration} : c.validate = .ok () ↔ c.fault? = none := by
  unfold validate
  cases c.fault? <;> simp

abbrev Environment := String → Option String

def withCompiler (c : Configuration) (env : Environment) : Configuration :=
  match env compilerVariable with
  | some command => { c with compiler := { c.compiler with command := some command } }
  | none => c

def withInterval (c : Configuration) (interval : Nat) : Configuration :=
  { c with defaults := { c.defaults with scan := { c.defaults.scan with interval } } }

def readInterval (text : String) : Except ConfigError Nat :=
  match Decimal.readNat Range.greatestNat32 (Text.trim text).toList with
  | some n => .ok n
  | none =>
    .error (.invalid
      (scanIntervalVariable ++ " must be a positive integer, got '" ++ text ++ "'"))

/-- Overrides from the environment. An unusable interval is an error, but the compiler command is
overridden before it is looked at. -/
def override (c : Configuration) (env : Environment) : Configuration × Except ConfigError Unit :=
  let c := c.withCompiler env
  match env scanIntervalVariable with
  | none => (c, .ok ())
  | some text =>
    match readInterval text with
    | .ok n => (c.withInterval n, .ok ())
    | .error e => (c, .error e)

def overridden (c : Configuration) (env : Environment) : Except ConfigError Configuration :=
  match c.override env with
  | (c', .ok ()) => .ok c'
  | (_, .error e) => .error e

/-- A file that does not exist stands for the standard configuration. -/
def ofSource (path : String) : Source → Except ConfigError Configuration
  | .absent _ => .ok standard
  | .unreadable reason => .error (.unreadable path reason)
  | .text content =>
    match (Toml.read? content).bind (decode .toml) with
    | none => .error (.malformed path)
    | some c => do
      c.validate
      return c

def load (path : String) (source : Source) (env : Environment) :
    Except ConfigError Configuration := do
  let c ← ofSource path source
  let c ← c.overridden env
  c.validate
  return c

end Configuration

end Datalogger
