import Datalogger.Proofs.Instruments.Requirements

/-!
Which instrument an error of construction names. What a type reads from the settings, it reads under its
type id, and only what is built after that goes by the id of the instance. So an error names a labelled
instance by its label exactly if the type could read its settings.
-/

namespace Datalogger

def Error.instruments : Error → List String
  | instrumentConfig instrument _ _ => [instrument]
  | unknownInstrument _ => []
  | invalidDeclaration instrument _ => [instrument]
  | duplicateVariableName _ first second => [first, second]
  | invalidVariableName _ instrument => [instrument]
  | unknownVariable instrument _ => [instrument]
  | wiringRoleNotFound _ instrument => [instrument]
  | ambiguousWiringRole _ instrument => [instrument]
  | unconnectedWiringRole _ instrument => [instrument]
  | invalidTerminal _ => []
  | invalidAddress _ => []
  | tableConflict _ first second _ => [first, second]
  | missingDependency instrument _ _ => [instrument]

theorem Wiring.RefusedFor.instruments {instrument : String} {e : Error}
    (refused : RefusedFor instrument e) : e.instruments = [instrument] := by
  cases refused <;> rfl

theorem Error.IsConfig.instruments {instrument : String} {e : Error} (config : e.IsConfig instrument) :
    e.instruments = [instrument] :=
  config.refusedFor.instruments

namespace Instruments

open Wiring (RefusedFor)

section

variable {e : CatalogEntry} {s : InstrumentSettings} {err : Error}

theorem Staged.isConfig_of_error (staged : Staged e s) (unread : ¬ Readable e s)
    (failed : e.build s = .error err) : err.IsConfig e.descriptor.typeId := by
  obtain @⟨α, read, D, o, build, _, _, readable, config, _⟩ := staged
  rw [build] at failed
  rcases Outcome.bind_eq_error_iff.1 failed with failed | ⟨a, given, _⟩
  · exact config err failed
  · exact absurd (readable.1 ⟨a, given⟩) unread

theorem Staged.refusedFor_of_error (staged : Staged e s) (read : Readable e s)
    (failed : e.build s = .error err) : RefusedFor (s.label.getD e.descriptor.typeId) err := by
  obtain @⟨α, read, D, o, build, sound, own, readable, _, _⟩ := staged
  obtain ⟨a, given⟩ := readable.2 ‹_›
  rw [build, given] at failed
  have refused := (sound a).refusedFor_of_build failed
  rwa [(own a).1] at refused

end

/-- Where the type of a labelled instance cannot read its settings, the error is about a setting and names
the type; else it names the label. -/
theorem errors_attributed (e : CatalogEntry) (listed : e ∈ builtin.entries) (s : InstrumentSettings)
    (label : String) (labelled : s.label = some label) (err : Error)
    (failed : builtin.instantiate e.descriptor.typeId s = .error err) :
    (Readable e s → RefusedFor label err) ∧ (¬ Readable e s → err.IsConfig e.descriptor.typeId) ∧
      (err.instruments = [label] ↔ Readable e s ∨ label = e.descriptor.typeId) := by
  have member : e ∈ builtinEntries := Catalog.mem_of_mem_entries listed
  have staged := staged_builtin s e member
  rw [Catalog.instantiate, get?_builtin member] at failed
  have own : Readable e s → RefusedFor label err := by
    intro read
    have refused := staged.refusedFor_of_error read failed
    rwa [labelled] at refused
  have type : ¬ Readable e s → err.IsConfig e.descriptor.typeId := fun unread =>
    staged.isConfig_of_error unread failed
  refine ⟨own, type, ?_⟩
  constructor
  · intro named
    by_cases read : Readable e s
    · exact .inl read
    · rw [(type read).instruments, List.cons.injEq] at named
      exact .inr named.1.symm
  · rintro (read | rfl)
    · exact (own read).instruments
    · by_cases read : Readable e s
      · exact (own read).instruments
      · exact (type read).instruments

/-! A soil probe in a plot, with a wire that it does not have and without its address. -/

def strayWire : InstrumentSettings :=
  { InstrumentSettings.standard with
    label := some "Plot A", elevation := some (-10), address := some ⟨'8', rfl⟩,
    wiring := .ofList [("Green", some (.channel .control 1))] }

def unaddressed : InstrumentSettings :=
  { InstrumentSettings.standard with label := some "Plot A", elevation := some (-10) }

theorem soil_listed : SoilProbe.entry ∈ builtin.entries :=
  Catalog.mem_entries_of_get? (get?_builtin (by simp [builtinEntries]))

theorem instantiate_soil (s : InstrumentSettings) :
    builtin.instantiate SoilProbe.entry.descriptor.typeId s = SoilProbe.entry.build s := by
  rw [Catalog.instantiate, get?_builtin (by simp [builtinEntries])]

theorem plot_errors_attributed :
    (strayWire.label = some "Plot A" ∧
      ∃ err, builtin.instantiate SoilProbe.entry.descriptor.typeId strayWire = .error err ∧
        RefusedFor "Plot A" err ∧ err.instruments = ["Plot A"]) ∧
    unaddressed.label = some "Plot A" ∧
      ∃ err, builtin.instantiate SoilProbe.entry.descriptor.typeId unaddressed = .error err ∧
        err.IsConfig "Acclima_TDR310N" := by
  constructor
  · have failed : builtin.instantiate SoilProbe.entry.descriptor.typeId strayWire =
        .error (.wiringRoleNotFound "Green" "Plot A") := by
      rw [instantiate_soil]
      cbv
    have read : Readable SoilProbe.entry strayWire :=
      (readable_iff_of_not_listed (by decide)).2
        ⟨fun _ => rfl, fun _ => rfl, fun _ needed => by cases needed⟩
    obtain ⟨own, _, named⟩ := errors_attributed SoilProbe.entry soil_listed strayWire "Plot A" rfl _ failed
    exact ⟨rfl, _, failed, own read, named.2 (.inl read)⟩
  · have failed := (instantiate_soil unaddressed).trans rfl
    have unread : ¬ Readable SoilProbe.entry unaddressed := fun read => by cases read.address rfl
    obtain ⟨_, type, _⟩ := errors_attributed SoilProbe.entry soil_listed unaddressed "Plot A" rfl _ failed
    exact ⟨rfl, _, failed, type unread⟩

/-- Without its address a labelled probe is reported as its type. -/
theorem label_not_named :
    ¬ ∀ (e : CatalogEntry) (s : InstrumentSettings) (label : String) (err : Error),
      e ∈ builtin.entries → s.label = some label →
        builtin.instantiate e.descriptor.typeId s = .error err → err.instruments = [label] := by
  intro all
  have named := all SoilProbe.entry unaddressed "Plot A" _ soil_listed rfl
    ((instantiate_soil unaddressed).trans rfl)
  revert named
  decide

end Instruments

end Datalogger
