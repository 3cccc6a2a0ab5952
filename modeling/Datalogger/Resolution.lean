import Datalogger.Instrument
import Datalogger.Program

/-!
Resolution: every declared dependency is bound to the variable that its request names, on the only
other instrument with the given id. Names that only label columns cannot be referred to.
-/

namespace Datalogger

namespace Resolution

inductive Fault where
  | noTarget
  | absent (instrument : String)
  | ambiguous (instrument : String)
  | itself
  | noVariable (instrument name : String)
  | fieldOnly (name : String)
  deriving DecidableEq, Repr

def Fault.reason : Fault → String
  | noTarget => "no source instrument and variable given"
  | absent instrument => "instrument '" ++ instrument ++ "' is not part of the program"
  | ambiguous instrument =>
    "more than one instrument is identified as '" ++ instrument ++ "'; give them labels"
  | itself => "an instrument cannot satisfy its own dependency"
  | noVariable instrument name => "'" ++ instrument ++ "' has no variable '" ++ name ++ "'"
  | fieldOnly name => "'" ++ name ++ "' only labels table columns"

def identified (instruments : List Instrument) (id : String) : List (Instrument × Nat) :=
  instruments.zipIdx.filter fun (i, _) => i.id = id

def locate (instruments : List Instrument) (position : Nat) (target : DependencyTarget) :
    Except Fault BoundVariable :=
  match identified instruments target.instrument with
  | [] => .error (.absent target.instrument)
  | _ :: _ :: _ => .error (.ambiguous target.instrument)
  | [(source, at_)] =>
    if at_ = position then .error .itself
    else
      match source.vars.get? target.variableName with
      | none => .error (.noVariable target.instrument target.variableName)
      | some v =>
        if v.fieldOnly then .error (.fieldOnly target.variableName)
        else .ok ⟨target.instrument, target.variableName, v.effectiveName⟩

def bindOne (instruments : List Instrument) (position : Nat) (targets : Dict DependencyTarget)
    (dependency : Dependency) : Except Fault BoundVariable :=
  match targets.get? dependency.name with
  | none => .error .noTarget
  | some target => locate instruments position target

/-- Binds the dependencies of the instrument at a position, in the order in which it declares them. -/
def bindEach (instruments : List Instrument) (position : Nat) (id : String)
    (targets : Dict DependencyTarget) : List Dependency → Bindings → Except Error Bindings
  | [], b => .ok b
  | d :: rest, b =>
    match bindOne instruments position targets d with
    | .error fault => .error (.missingDependency id d.name fault.reason)
    | .ok v => bindEach instruments position id targets rest (b.bind position d.name v)

def bindFrom (instruments : List Instrument) :
    Nat → List (Instrument × InstrumentRequest) → Bindings → Except Error Bindings
  | _, [], b => .ok b
  | position, (i, request) :: rest, b =>
    match bindEach instruments position i.id request.dependencies i.dependencies b with
    | .error e => .error e
    | .ok b => bindFrom instruments (position + 1) rest b

end Resolution

/-- The request at each position is the one its instrument was built from. -/
def resolve (instruments : List Instrument) (requests : List InstrumentRequest) :
    Except Error Bindings :=
  Resolution.bindFrom instruments 0 (instruments.zip requests) (.unbound instruments.length)

end Datalogger
