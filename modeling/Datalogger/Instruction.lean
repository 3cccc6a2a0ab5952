/-!
Instructions: a name and its arguments. `Average(1,bp,IEEE4,False)` is the text of one, without blanks
between its parts. The arguments are texts, or pieces that become texts once the names of an
instrument are known.
-/

namespace Datalogger

structure Instruction (α : Type) where
  name : String
  args : List α
  deriving DecidableEq, Repr

namespace Instruction

def quoted (text : String) : String :=
  "\"" ++ text ++ "\""

def truth : Bool → String
  | true => "True"
  | false => "False"

def text (i : Instruction String) : String :=
  i.name ++ "(" ++ ",".intercalate i.args ++ ")"

def average (reps source dataType disable : α) : Instruction α :=
  ⟨"Average", [reps, source, dataType, disable]⟩

def sample (reps source dataType : α) : Instruction α :=
  ⟨"Sample", [reps, source, dataType]⟩

def maximum (reps source dataType disable time : α) : Instruction α :=
  ⟨"Maximum", [reps, source, dataType, disable, time]⟩

def minimum (reps source dataType disable time : α) : Instruction α :=
  ⟨"Minimum", [reps, source, dataType, disable, time]⟩

def totalize (reps source dataType disable : α) : Instruction α :=
  ⟨"Totalize", [reps, source, dataType, disable]⟩

end Instruction

end Datalogger
