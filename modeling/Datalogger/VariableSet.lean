import Datalogger.Error
import Datalogger.Text.Fold
import Datalogger.Variable

/-!
The variables of one instrument, in declaration order. `VariableSet.build` accepts a list of
declarations whose names differ, ignoring case, and whose register aliases name different elements
that the register has; all lookups go by declared name.
-/

namespace Datalogger

open Text (fold)

structure VariableSet where
  owner : String
  declarations : List Declaration
  deriving DecidableEq, Repr

inductive RegisterFault where
  | empty
  | outside (name : String) (index : Nat)
  | repeated (index : Nat)
  deriving DecidableEq, Repr

def RegisterFault.reason (r : Register) : RegisterFault → String
  | empty => "register '" ++ r.name ++ "' has no elements"
  | outside name index =>
    "alias '" ++ name ++ "' points at " ++ r.element (natText index) ++ " outside 1..=" ++
      natText r.dimension
  | repeated index => r.element (natText index) ++ " is aliased twice"

namespace Register

def aliasFault? (dimension : Nat) : List Nat → List (Nat × Variable) → Option RegisterFault
  | _, [] => none
  | used, (index, v) :: rest =>
    if index = 0 || dimension < index then some (.outside v.name index)
    else if used.contains index then some (.repeated index)
    else aliasFault? dimension (index :: used) rest

def fault? (r : Register) : Option RegisterFault :=
  if r.dimension = 0 then some .empty else aliasFault? r.dimension [] r.aliases

end Register

namespace VariableSet

/-- Scalars, and for each register its base and its aliases. -/
def vars (s : VariableSet) : List Variable :=
  s.declarations.flatMap Declaration.vars

def registers (s : VariableSet) : List Register :=
  s.declarations.filterMap Declaration.register?

def firstRepeated : List String → List Variable → Option Variable
  | _, [] => none
  | seen, v :: rest =>
    if seen.contains (fold v.name) then some v else firstRepeated (fold v.name :: seen) rest

def firstFault (registers : List Register) : Option (Register × RegisterFault) :=
  registers.findSome? fun r => r.fault?.map (r, ·)

/-- A repeated name is reported before a faulty register. -/
def build (owner : String) (declarations : List Declaration) : Except Error VariableSet :=
  let set : VariableSet := ⟨owner, declarations⟩
  match firstRepeated [] set.vars with
  | some v => .error (.duplicateVariableName v.name owner owner)
  | none =>
    match firstFault set.registers with
    | some (r, fault) => .error (.invalidDeclaration owner (fault.reason r))
    | none => .ok set

def get? (s : VariableSet) (name : String) : Option Variable :=
  s.vars.find? (·.name = name)

def name (s : VariableSet) (name : String) : Except Error String :=
  match s.get? name with
  | some v => .ok v.effectiveName
  | none => .error (.unknownVariable s.owner name)

def register (s : VariableSet) (name : String) : Except Error Register :=
  match s.registers.find? (·.name = name) with
  | some r => .ok r
  | none => .error (.unknownVariable s.owner name)

def suffixed (suffix : String) (s : VariableSet) : VariableSet :=
  { s with declarations := s.declarations.map (Declaration.suffixed suffix) }

def suffixable (s : VariableSet) : List Variable :=
  s.declarations.flatMap Declaration.suffixable

/-- Declaration lines; names that only label columns have none. -/
def lines (s : VariableSet) : List String :=
  s.declarations.flatMap Declaration.lines

@[simp] theorem map_name_suffixed (suffix : String) (s : VariableSet) :
    (s.suffixed suffix).vars.map Variable.name = s.vars.map Variable.name := by
  simp only [vars, suffixed, List.flatMap_map, List.map_flatMap]
  congr 1
  funext d
  cases d <;> simp [Declaration.suffixed, Declaration.vars, Register.suffixed, Register.vars]

theorem suffixable_suffixed (suffix : String) (s : VariableSet) :
    (s.suffixed suffix).suffixable = s.suffixable.map (Variable.suffixed suffix) := by
  rw [suffixable, suffixable, suffixed, List.flatMap_map, List.map_flatMap]
  congr 1
  funext d
  cases d with
  | scalar v => rfl
  | register r => simp [Declaration.suffixed, Declaration.suffixable, Register.suffixed]

theorem registers_suffixed (suffix : String) (s : VariableSet) :
    (s.suffixed suffix).registers = s.registers.map (Register.suffixed suffix) := by
  rw [registers, registers, suffixed, List.filterMap_map, List.map_filterMap]
  congr 1
  funext d
  cases d <;> rfl

end VariableSet

end Datalogger
