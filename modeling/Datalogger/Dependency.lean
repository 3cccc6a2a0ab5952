import Datalogger.Data.Dict
import Datalogger.Error

/-!
Dependencies: variables that an instrument needs from another one. Resolution leaves the instruments
as they are and yields bindings by position in the program; an instrument sees its own through `Deps`.
-/

namespace Datalogger

structure Dependency where
  name : String
  description : String
  deriving DecidableEq, Repr

structure DependencyTarget where
  instrument : String
  variableName : String
  deriving DecidableEq, Repr

structure BoundVariable where
  instrument : String
  variableName : String
  effective : String
  deriving DecidableEq, Repr

/-- The bound dependencies of every instrument, by its position in the program. -/
structure Bindings where
  byPosition : List (Dict BoundVariable)
  deriving DecidableEq

namespace Bindings

def unbound (instruments : Nat) : Bindings :=
  ⟨List.replicate instruments .empty⟩

/-- A position outside the program is ignored. -/
def bind (b : Bindings) (position : Nat) (dependency : String) (bound : BoundVariable) : Bindings :=
  ⟨b.byPosition.modify position (·.insert dependency bound)⟩

def get? (b : Bindings) (position : Nat) (dependency : String) : Option BoundVariable :=
  b.byPosition[position]?.bind (·.get? dependency)

end Bindings

inductive Deps.Source where
  | bound (vars : Dict BoundVariable)
  | placeholders
  | missing

structure Deps where
  instrument : String
  source : Deps.Source

namespace Deps

def placeholders (instrument : String) : Deps := ⟨instrument, .placeholders⟩

def notBound (instrument dependency : String) : Error :=
  .missingDependency instrument dependency "not bound"

def name (d : Deps) (dependency : String) : Except Error String :=
  match d.source with
  | .placeholders => .ok ("<" ++ dependency ++ ">")
  | .missing => .error (notBound d.instrument dependency)
  | .bound vars =>
    match vars.get? dependency with
    | some v => .ok v.effective
    | none => .error (notBound d.instrument dependency)

end Deps

def Bindings.deps (b : Bindings) (position : Nat) (instrument : String) : Deps :=
  ⟨instrument, match b.byPosition[position]? with
    | some vars => .bound vars
    | none => .missing⟩

theorem Bindings.name_deps (b : Bindings) (position : Nat) (instrument dependency : String) :
    (b.deps position instrument).name dependency =
      match b.get? position dependency with
      | some v => .ok v.effective
      | none => .error (Deps.notBound instrument dependency) := by
  unfold deps get?
  cases b.byPosition[position]? <;> rfl

end Datalogger
