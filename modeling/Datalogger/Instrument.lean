import Datalogger.Dependency
import Datalogger.Settings
import Datalogger.SlowSequence
import Datalogger.Table
import Datalogger.Wiring

/-!
Instruments: what every instance owns, and the facets by which it contributes to a program. A facet is
a function of the resolved dependencies and may be absent; program logic can refer to a variable of
another instrument only through them.
-/

namespace Datalogger

structure Descriptor where
  typeId : String
  manufacturer : String
  model : String
  category : String
  deriving DecidableEq, Repr

def Descriptor.text (d : Descriptor) : String :=
  d.manufacturer ++ " " ++ d.model ++ " (" ++ d.category ++ ")"

structure Parts where
  id : String
  descriptor : Descriptor
  wiring : Wiring
  vars : VariableSet
  dependencies : List Dependency
  deriving DecidableEq, Repr

namespace Parts

def idFor (d : Descriptor) (settings : InstrumentSettings) : String :=
  settings.label.getD d.typeId

def rename (vars : VariableSet) : Option String → VariableSet
  | some suffix => vars.suffixed suffix
  | none => vars

/-- Declarations are checked first, then the wiring overrides, then the settings that names need. -/
def assemble (descriptor : Descriptor) (settings : InstrumentSettings) (wiring : Wiring)
    (declarations : List Declaration) (dependencies : List Dependency) : Except Error Parts := do
  let id := idFor descriptor settings
  let vars ← VariableSet.build id declarations
  let wiring ← wiring.overridden settings.wiring id
  let suffix ← settings.suffix id
  return ⟨id, descriptor, wiring, rename vars suffix, dependencies⟩

def var (p : Parts) (name : String) : Except Error String :=
  p.vars.name name

def register (p : Parts) (name : String) : Except Error Register :=
  p.vars.register name

def terminal (p : Parts) (role : String) : Except Error Terminal :=
  p.wiring.terminal role p.id

end Parts

/-- A contribution that may be absent and may fail. -/
abbrev Facet (α : Type) := Deps → Except Error (Option α)

structure Instrument where
  parts : Parts
  tables : Facet (List (Table String))
  /-- Statements before the main scan. -/
  preScan : Facet String
  /-- Statements of the main scan. -/
  program : Facet String
  /-- Statements after the tables were called. -/
  postScan : Facet String
  slowSequence : Facet (SlowSequence String)
  functions : Facet (List String)

namespace Instrument

def id (i : Instrument) : String := i.parts.id

def descriptor (i : Instrument) : Descriptor := i.parts.descriptor

def wiring (i : Instrument) : Wiring := i.parts.wiring

def vars (i : Instrument) : VariableSet := i.parts.vars

def dependencies (i : Instrument) : List Dependency := i.parts.dependencies

end Instrument

end Datalogger
