import Datalogger.Decimal.Layout
import Datalogger.Instruction

/-!
Declared variables and registers. A variable has a declared name, which it is looked up by, and an
effective name, which is what the program text shows. A register is one array whose elements can have
names of their own; the array itself is never renamed.
-/

namespace Datalogger

/-- How a name is declared. A published variable is visible outside the program, a scratch variable
is not, and an element of a register can have a name of its own. -/
inductive DeclKind where
  | published
  | constant
  | scratch
  | element
  deriving DecidableEq, Repr

def DeclKind.keyword : DeclKind → String
  | published => "Public"
  | constant => "Const"
  | scratch => "Dim"
  | element => "Alias"

inductive DataType where
  | float
  | long
  | boolean
  | string (length : Option Nat)
  deriving DecidableEq, Repr

def DataType.text : DataType → String
  | float => "Float"
  | long => "Long"
  | boolean => "Boolean"
  | string none => "String"
  | string (some n) => "String * " ++ natText n

structure Variable where
  name : String
  kind : DeclKind
  dataType : Option DataType
  value : Option String
  units : Option String
  rename : Option String
  /-- Only labels a table column: it is renamed like the others but never declared. -/
  fieldOnly : Bool
  deriving DecidableEq, Repr

namespace Variable

def ofKind (kind : DeclKind) (name : String) : Variable :=
  ⟨name, kind, none, none, none, none, false⟩

def published (name : String) : Variable := ofKind .published name

def scratch (name : String) : Variable := ofKind .scratch name

def constant (name value : String) : Variable :=
  { ofKind .constant name with value := some value }

def field (name : String) : Variable :=
  { ofKind .published name with fieldOnly := true }

def withUnits (v : Variable) (units : String) : Variable := { v with units := some units }

def withType (v : Variable) (dataType : DataType) : Variable := { v with dataType := some dataType }

def withInitial (v : Variable) (value : String) : Variable := { v with value := some value }

def effectiveName (v : Variable) : String :=
  v.rename.getD v.name

/-- The suffix goes on the declared name, so an earlier one leaves no trace. -/
def suffixed (suffix : String) (v : Variable) : Variable :=
  { v with rename := some (v.name ++ suffix) }

def unitsClause (v : Variable) : String :=
  v.units.elim "" fun u => " : Units " ++ v.effectiveName ++ " = " ++ u

def typeClause (v : Variable) : String :=
  v.dataType.elim "" fun t => " As " ++ t.text

def declaration (v : Variable) : String :=
  v.kind.keyword ++ " " ++ v.effectiveName ++ v.typeClause ++ v.value.elim "" (" = " ++ ·) ++
    v.unitsClause

@[simp] theorem name_suffixed (suffix : String) (v : Variable) :
    (v.suffixed suffix).name = v.name := rfl

end Variable

/-- The array itself: a published or scratch name that is declared and never renamed. -/
structure Variable.IsBase (v : Variable) : Prop where
  kind : v.kind = .published ∨ v.kind = .scratch
  rename : v.rename = none
  declared : v.fieldOnly = false

structure Variable.IsElement (v : Variable) : Prop where
  kind : v.kind = .element
  declared : v.fieldOnly = false

structure Register where
  base : Variable
  dimension : Nat
  aliases : List (Nat × Variable)
  base_isBase : base.IsBase
  alias_isElement : ∀ a ∈ aliases, a.2.IsElement
  deriving DecidableEq, Repr

namespace Register

def published (name : String) (dimension : Nat) : Register :=
  ⟨.published name, dimension, [], ⟨.inl rfl, rfl, rfl⟩, by simp⟩

def scratch (name : String) (dimension : Nat) : Register :=
  ⟨.scratch name, dimension, [], ⟨.inr rfl, rfl, rfl⟩, by simp⟩

def withType (r : Register) (dataType : DataType) : Register :=
  { r with
    base := r.base.withType dataType
    base_isBase := ⟨r.base_isBase.kind, r.base_isBase.rename, r.base_isBase.declared⟩ }

def named (r : Register) (index : Nat) (v : Variable) (h : v.IsElement) : Register :=
  { r with
    aliases := r.aliases ++ [(index, v)]
    alias_isElement := by
      intro a ha
      rcases List.mem_append.1 ha with ha | ha
      · exact r.alias_isElement a ha
      · rw [List.mem_singleton.1 ha]
        exact h }

def withAlias (r : Register) (index : Nat) (name : String) : Register :=
  r.named index (.ofKind .element name) ⟨rfl, rfl⟩

def aliasWithUnits (r : Register) (index : Nat) (name units : String) : Register :=
  r.named index ((Variable.ofKind .element name).withUnits units) ⟨rfl, rfl⟩

def aliasEach (r : Register) (elements : List (Nat × String × String)) : Register :=
  elements.foldl (fun r e => r.aliasWithUnits e.1 e.2.1 e.2.2) r

def name (r : Register) : String := r.base.name

def element (r : Register) (index : String) : String :=
  r.name ++ "(" ++ index ++ ")"

def vars (r : Register) : List Variable :=
  r.base :: r.aliases.map (·.2)

def suffixed (suffix : String) (r : Register) : Register :=
  { r with
    aliases := r.aliases.map fun (i, v) => (i, v.suffixed suffix)
    alias_isElement := by
      intro a ha
      obtain ⟨b, hb, rfl⟩ := List.mem_map.1 ha
      exact ⟨(r.alias_isElement b hb).kind, (r.alias_isElement b hb).declared⟩ }

def head (r : Register) : String :=
  r.base.kind.keyword ++ " " ++ r.name ++ "(" ++ natText r.dimension ++ ")" ++ r.base.typeClause

def aliasLine (r : Register) (index : Nat) (v : Variable) : String :=
  "Alias " ++ r.element (natText index) ++ " = " ++ v.effectiveName ++ v.unitsClause

def declarations (r : Register) : List String :=
  r.head :: r.aliases.map fun (i, v) => r.aliasLine i v

theorem effectiveName_base (r : Register) : r.base.effectiveName = r.name := by
  rw [Variable.effectiveName, r.base_isBase.rename, Option.getD_none, name]

end Register

inductive Declaration where
  | scalar (v : Variable)
  | register (r : Register)
  deriving DecidableEq, Repr

namespace Declaration

instance : Coe Variable Declaration := ⟨scalar⟩

instance : Coe Register Declaration := ⟨register⟩

def vars : Declaration → List Variable
  | scalar v => [v]
  | register r => r.vars

def register? : Declaration → Option Register
  | scalar _ => none
  | register r => some r

/-- Everything but the base of a register takes the suffix. -/
def suffixed (suffix : String) : Declaration → Declaration
  | scalar v => scalar (v.suffixed suffix)
  | register r => register (r.suffixed suffix)

def suffixable : Declaration → List Variable
  | scalar v => [v]
  | register r => r.aliases.map Prod.snd

def lines : Declaration → List String
  | scalar v => if v.fieldOnly then [] else [v.declaration]
  | register r => r.declarations

end Declaration

end Datalogger
