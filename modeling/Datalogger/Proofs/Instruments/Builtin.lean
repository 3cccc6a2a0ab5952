import Datalogger.Instruments.Builtin
import Datalogger.Proofs.Data.NormalForm
import Datalogger.Proofs.Instruments.Power
import Datalogger.Proofs.Instruments.Site
import Datalogger.Proofs.Instruments.Soil
import Datalogger.Proofs.Instruments.Water
import Datalogger.Proofs.Instruments.Weather
import Datalogger.Proofs.Instruments.Wind

/-!
Every instance that the built-in catalog makes is the instance of a sound design with an outline that
fits it.
-/

namespace Datalogger

namespace Catalog

variable {entries : List CatalogEntry} {e : CatalogEntry} {c : Catalog} {typeId : String}

theorem byType_ofList (entries : List CatalogEntry) :
    (ofList entries).byType = .ofList (entries.map fun e => (e.descriptor.typeId, e)) := by
  have grown : ∀ c : Catalog, (entries.foldl register c).byType =
      entries.foldl (fun d e => d.insert e.descriptor.typeId e) c.byType := by
    induction entries with
    | nil => exact fun _ => rfl
    | cons x rest ih => exact fun c => ih (c.register x)
  rw [Dict.ofList, List.foldl_map]
  exact grown empty

theorem entry_of_mem (held : (typeId, e) ∈ (ofList entries).byType.entries) :
    e ∈ entries ∧ e.descriptor.typeId = typeId := by
  rw [byType_ofList] at held
  obtain ⟨x, member, same⟩ := List.mem_map.1 (Dict.mem_of_mem_ofList held)
  cases same
  exact ⟨member, rfl⟩

theorem mem_of_get? (found : (ofList entries).get? typeId = some e) : e ∈ entries :=
  (entry_of_mem (Dict.mem_of_get? found)).1

theorem typeId_of_get? (found : (ofList entries).get? typeId = some e) :
    e.descriptor.typeId = typeId :=
  (entry_of_mem (Dict.mem_of_get? found)).2

theorem mem_of_mem_entries (listed : e ∈ (ofList entries).entries) : e ∈ entries := by
  obtain ⟨entry, member, rfl⟩ := List.mem_map.1 listed
  exact (entry_of_mem member).1

theorem mem_entries_of_get? (found : c.get? typeId = some e) : e ∈ c.entries :=
  List.mem_map.2 ⟨_, Dict.mem_of_get? found, rfl⟩

theorem get?_of_mem (distinct : (entries.map fun e => e.descriptor.typeId).Nodup)
    (member : e ∈ entries) : (ofList entries).get? e.descriptor.typeId = some e := by
  rw [get?, byType_ofList]
  refine Dict.get?_ofList_of_mem ?_ (List.mem_map.2 ⟨e, member, rfl⟩)
  rwa [List.map_map]

end Catalog

namespace Instruments

theorem designed_builtin : ∀ e ∈ builtinEntries, Designed e := by
  simp only [builtinEntries, List.forall_mem_cons]
  exact ⟨PropellerWind.designed, UltrasonicWind.designed, Barometer.designed, HumidityProbe.designed,
    SoilProbe.designed, ChargeController.designed, Battery.designed, PanelTemperature.designed,
    Camera.designed_movable, Camera.designed_compact, DoorSwitch.designed, PressureProbe.designed,
    PrecipitationGauge.designed, Modem.designed, SnowDepth.designed, Pyranometer.designed, by simp⟩

structure Described (s : InstrumentSettings) (i : Instrument) : Prop where
  exists_design : ∃ D o p, Describes D o s ∧ D.Built s p ∧ i = .ofOutline p o

theorem described_of_instantiate {typeId : String} {s : InstrumentSettings} {i : Instrument}
    (made : builtin.instantiate typeId s = .ok i) : Described s i := by
  unfold Catalog.instantiate at made
  split at made
  · rename_i e found
    rcases designed_builtin e (Catalog.mem_of_get? found) s with ⟨err, failed, _⟩ | ⟨D, o, d, same⟩
    · rw [failed] at made
      cases made
    · rw [same] at made
      obtain ⟨p, built, rfl⟩ := d.sound.built_of_build made
      exact ⟨D, o, p, d, built, rfl⟩
  · cases made

/-- What a built-in type can refuse an instance for. -/
theorem kind_of_instantiate_error {typeId : String} {s : InstrumentSettings} {e : Error}
    (failed : builtin.instantiate typeId s = .error e) :
    e.kind ∈ ["unknown_instrument", "instrument_config", "wiring_role_not_found",
      "ambiguous_wiring_role"] := by
  unfold Catalog.instantiate at failed
  split at failed
  · rename_i entry found
    rcases designed_builtin entry (Catalog.mem_of_get? found) s with ⟨err, refused, kind⟩ | ⟨D, o, d, same⟩
    · rw [refused] at failed
      cases failed
      simp [kind]
    · rw [same] at failed
      rcases (d.sound.refusedFor_of_build failed).refusal with kind | kind | kind <;> simp [kind]
  · cases failed
    simp [Error.kind]

end Instruments

end Datalogger
