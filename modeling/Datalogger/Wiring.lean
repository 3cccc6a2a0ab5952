import Datalogger.Data.Dict
import Datalogger.Terminal
import Datalogger.Text.Lines
import Datalogger.Text.Pad

/-!
Wiring: the roles of an instrument's wires, usually their colours, and the terminals they go to.
Roles are found without regard to case and must then be unique. `applyOverrides` moves wires to
other terminals; it never disconnects one.
-/

namespace Datalogger

open Text (sameFolded padEnd trimEnd joinLines)

structure Wire where
  role : String
  /-- `none` for a wire that is left unconnected. -/
  terminal : Option Terminal
  description : String
  deriving DecidableEq, Repr

structure Wiring where
  wires : List Wire
  /-- Free text under the diagram. -/
  note : Option String
  deriving DecidableEq, Repr

namespace Wire

def connected (role : String) (terminal : Terminal) (description : String) : Wire :=
  ⟨role, some terminal, description⟩

def unconnected (role description : String) : Wire :=
  ⟨role, none, description⟩

/-- A comment line in columns; unconnected wires show two dashes. -/
def diagramLine (w : Wire) : String :=
  trimEnd ("'" ++ padEnd 8 (w.role ++ ":") ++ " " ++
    padEnd 8 (w.terminal.elim "--" Terminal.label) ++ " " ++ w.description)

def hasRole (role : String) (w : Wire) : Bool :=
  sameFolded w.role role

end Wire

namespace Wiring

def empty : Wiring := ⟨[], none⟩

def ofWires (wires : List Wire) : Wiring := ⟨wires, none⟩

def isEmpty (w : Wiring) : Bool :=
  w.wires.isEmpty

/-- The only wire with a role. -/
def find (w : Wiring) (role instrument : String) : Except Error Wire :=
  match w.wires.filter (Wire.hasRole role) with
  | [wire] => .ok wire
  | [] => .error (.wiringRoleNotFound role instrument)
  | _ :: _ :: _ => .error (.ambiguousWiringRole role instrument)

def terminal (w : Wiring) (role instrument : String) : Except Error Terminal :=
  match w.find role instrument with
  | .error e => .error e
  | .ok wire =>
    match wire.terminal with
    | some t => .ok t
    | none => .error (.unconnectedWiringRole wire.role instrument)

def connect (w : Wiring) (role : String) (t : Terminal) : Wiring :=
  { w with wires := w.wires.map fun x => if x.hasRole role then { x with terminal := some t } else x }

/-- One override. A role may be mentioned once, and a connected wire stays connected. -/
def override (w : Wiring) (instrument : String) (assigned : List String) (role : String)
    (target : Option Terminal) : Except Error Wiring :=
  match w.find role instrument with
  | .error e => .error e
  | .ok wire =>
    if assigned.contains (Text.fold role) then .error (.ambiguousWiringRole wire.role instrument)
    else
      match target with
      | some t => .ok (w.connect role t)
      | none =>
        if wire.terminal.isSome then
          .error (.instrumentConfig instrument "wiring"
            ("role '" ++ wire.role ++ "' is connected and cannot be disconnected"))
        else .ok w

/-- Overrides in turn, up to the first that is refused; changes made before it stay. -/
def overrideEach (instrument : String) :
    List (String × Option Terminal) → List String → Wiring → Wiring × Option Error
  | [], _, w => (w, none)
  | (role, target) :: rest, assigned, w =>
    match w.override instrument assigned role target with
    | .error e => (w, some e)
    | .ok w' => overrideEach instrument rest (Text.fold role :: assigned) w'

def applyOverrides (w : Wiring) (overrides : Dict (Option Terminal)) (instrument : String) :
    Wiring × Option Error :=
  overrideEach instrument overrides.entries [] w

def overridden (w : Wiring) (overrides : Dict (Option Terminal)) (instrument : String) :
    Except Error Wiring :=
  match w.applyOverrides overrides instrument with
  | (w', none) => .ok w'
  | (_, some e) => .error e

def diagram (w : Wiring) : String :=
  joinLines (w.wires.map Wire.diagramLine ++ (w.note.map ("'" ++ ·)).toList)

theorem find_eq_ok_iff {w : Wiring} {role instrument : String} {wire : Wire} :
    w.find role instrument = .ok wire ↔ w.wires.filter (Wire.hasRole role) = [wire] := by
  unfold find
  generalize w.wires.filter (Wire.hasRole role) = found
  match found with
  | [] | [_] | _ :: _ :: _ => simp

theorem overridden_eq_ok_iff {w w' : Wiring} {overrides : Dict (Option Terminal)}
    {instrument : String} :
    w.overridden overrides instrument = .ok w' ↔
      w.applyOverrides overrides instrument = (w', none) := by
  unfold overridden
  split <;> simp_all

end Wiring

end Datalogger
