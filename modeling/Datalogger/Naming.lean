import Datalogger.VariableSet

/-!
Names across a program. The settings of an instrument can ask for a suffix on its variables, and the
effective names of all instruments together must be identifiers that differ in more than case.
-/

namespace Datalogger

open Text (fold)

/-- Which settings of an instrument its variable names carry. -/
inductive NameInclusion where
  | none
  | sdi12
  | elevation
  | both
  deriving DecidableEq, Repr

namespace NameInclusion

def text : NameInclusion → String
  | none => "none"
  | sdi12 => "sdi12"
  | elevation => "elevation"
  | both => "both"

/-- A name has no place for a minus sign; an `n` stands for it. -/
def elevationToken (elevation : Int) : String :=
  if elevation < 0 then "n" ++ natText elevation.natAbs else natText elevation.natAbs

def addressPart (instrument : String) (address : Option String) : Except Error String :=
  match address with
  | some a => .ok a
  | .none =>
    .error (.instrumentConfig instrument "sdi12_address" "variable names include the SDI-12 address")

def elevationPart (instrument : String) (elevation : Option Int) : Except Error String :=
  match elevation with
  | some e => .ok (elevationToken e)
  | .none =>
    .error (.instrumentConfig instrument "elevation" "variable names include the elevation")

def suffix (m : NameInclusion) (instrument : String) (address : Option String)
    (elevation : Option Int) : Except Error (Option String) :=
  match m with
  | none => .ok .none
  | sdi12 => do
    return some ("_" ++ (← addressPart instrument address))
  | .elevation => do
    return some ("_" ++ (← elevationPart instrument elevation))
  | both => do
    let a ← addressPart instrument address
    let e ← elevationPart instrument elevation
    return some ("_" ++ a ++ "_" ++ e)

end NameInclusion

/-- The longest identifier, in bytes of UTF-8. -/
def identifierLimit : Nat := 39

def isWordChar (c : Char) : Bool :=
  c.isAlphanum || c = '_'

/-- A letter, then letters, digits and underscores, all of them ASCII. -/
def isIdentifier (name : String) : Bool :=
  name.utf8ByteSize ≤ identifierLimit &&
    match name.toList with
    | [] => false
    | c :: cs => c.isAlpha && cs.all isWordChar

def ownedVariables (sets : List VariableSet) : List (String × Variable) :=
  sets.flatMap fun s => s.vars.map (s.owner, ·)

/-- The first name that is no identifier or repeats an earlier one, against the names that are
already taken and their owners. -/
def nameFault? : List (String × String) → List (String × Variable) → Option Error
  | _, [] => none
  | taken, (owner, v) :: rest =>
    let name := v.effectiveName
    if !isIdentifier name then some (.invalidVariableName name owner)
    else
      match taken.lookup (fold name) with
      | some first => some (.duplicateVariableName name first owner)
      | none => nameFault? ((fold name, owner) :: taken) rest

def ensureUnique (sets : List VariableSet) : Except Error Unit :=
  match nameFault? [] (ownedVariables sets) with
  | some e => .error e
  | none => .ok ()

end Datalogger
