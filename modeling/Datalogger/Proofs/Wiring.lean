import Datalogger.Proofs.Outcome
import Datalogger.Wiring

/-!
What overrides leave as it is. They move wires to other terminals: roles, descriptions and the note
stay, and a wire that went to a terminal still goes to one. So a role that could be looked up before
can be looked up after any overrides.
-/

namespace Datalogger

structure Wire.MovedTo (a b : Wire) : Prop where
  role : b.role = a.role
  description : b.description = a.description
  terminal : a.terminal.isSome = true → b.terminal.isSome = true

namespace Wiring

structure MovedTo (w w' : Wiring) : Prop where
  wires : List.Forall₂ Wire.MovedTo w.wires w'.wires
  note : w'.note = w.note

theorem MovedTo.exists_wire {w w' : Wiring} (moved : w.MovedTo w') {y : Wire} (member : y ∈ w'.wires) :
    ∃ x ∈ w.wires, x.MovedTo y :=
  Outcome.exists_of_forall₂ moved.wires member

def connected (w : Wiring) (role : String) : Bool :=
  match w.wires.filter (Wire.hasRole role) with
  | [wire] => wire.terminal.isSome
  | _ => false

theorem connected_iff {w : Wiring} {role : String} :
    w.connected role = true ↔
      ∃ wire, w.wires.filter (Wire.hasRole role) = [wire] ∧ wire.terminal.isSome = true := by
  unfold connected
  split
  · rename_i wire found
    simp [found]
  · rename_i other
    constructor
    · intro never
      cases never
    · rintro ⟨wire, found, _⟩
      exact absurd found (other wire)

theorem filter_movedTo {wires wires' : List Wire} (moved : List.Forall₂ Wire.MovedTo wires wires')
    (role : String) :
    List.Forall₂ Wire.MovedTo (wires.filter (Wire.hasRole role))
      (wires'.filter (Wire.hasRole role)) := by
  refine List.rel_filter (fun a b same => ?_) moved
  simp [Wire.hasRole, same.role]

theorem connected_of_movedTo {w w' : Wiring} (moved : w.MovedTo w') {role : String}
    (h : w.connected role = true) : w'.connected role = true := by
  obtain ⟨wire, found, goes⟩ := connected_iff.1 h
  have filtered := filter_movedTo moved.wires role
  rw [found] at filtered
  obtain ⟨wire', _, first, none, found'⟩ := List.forall₂_cons_left_iff.1 filtered
  cases none
  exact connected_iff.2 ⟨wire', found', first.terminal goes⟩

theorem exists_terminal {w : Wiring} {role : String} (h : w.connected role = true)
    (instrument : String) : ∃ t, w.terminal role instrument = .ok t := by
  obtain ⟨wire, found, goes⟩ := connected_iff.1 h
  obtain ⟨t, there⟩ := Option.isSome_iff_exists.1 goes
  have one : w.find role instrument = .ok wire := find_eq_ok_iff.2 found
  exact ⟨t, by simp [terminal, one, there]⟩

def Refusal (e : Error) : Prop :=
  e.kind = "wiring_role_not_found" ∨ e.kind = "ambiguous_wiring_role" ∨ e.kind = "instrument_config"

inductive RefusedFor (instrument : String) : Error → Prop
  | notFound (role : String) : RefusedFor instrument (.wiringRoleNotFound role instrument)
  | ambiguous (role : String) : RefusedFor instrument (.ambiguousWiringRole role instrument)
  | config (setting reason : String) :
      RefusedFor instrument (.instrumentConfig instrument setting reason)

theorem RefusedFor.refusal {instrument : String} {e : Error} (refused : RefusedFor instrument e) :
    Refusal e := by
  cases refused with
  | notFound role => exact .inl rfl
  | ambiguous role => exact .inr (.inl rfl)
  | config setting reason => exact .inr (.inr rfl)

end Wiring

end Datalogger
