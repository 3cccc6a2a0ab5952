import Datalogger.Instruments.Soil
import Datalogger.Proofs.Instruments.Conventions

/-!
The soil probe has all that its outline refers to. The name of its register depends on the address.
-/

namespace Datalogger.Instruments

open Template Instruction
open Text (OneLine fold)

namespace SoilProbe

def design (address : Sdi12Address) : Design :=
  ⟨descriptor, wiring, declarations address, []⟩

theorem names_design (address : Sdi12Address) : (design address).names =
    [registerName address, "soil_vwc", "soil_temp", "soil_perm", "soil_ec_blk", "soil_ec_por"] := rfl

theorem registerNames_design (address : Sdi12Address) :
    (design address).registerNames = [registerName address] := rfl

theorem fits (L : TextLaw) (address : Sdi12Address) : (design address).Fits L (outline address) where
  tables := by
    have soils : ∀ items, (design address).FitsTable L ((Table.named "Soils").offCard.withItems items) ↔
        ∀ i ∈ items, (design address).Line L i.output ∧ ∀ f ∈ i.fields, (design address).Part L f :=
      fun _ => Design.fitsTable_withItems rfl (.of_test (by decide) (by decide)) (by cbv)
    simp +decide [outline, observations, archive, soils, elements, names_design, sample, L.of_oneLine,
      oneLine_address]
  slowSequence := by
    have wired : (design address).wiring.connected "Blue" = true := by
      change wiring.connected "Blue" = true
      cbv
    simp +decide [outline, names_design, registerNames_design, wired, L.of_oneLine]
  preScan := nofun
  program := nofun
  postScan := nofun
  functions := nofun

theorem length_registerName (address : Sdi12Address) : (registerName address).toList.length = 6 := by
  rw [registerName, String.toList_append, List.length_append, address.length_text]
  rfl

theorem roomy_registerName (address : Sdi12Address) : Roomy (registerName address) := by
  have stem : Roomy "soil_" := ⟨by decide, by decide⟩
  have text : SuffixPart 14 address.text := ⟨address.text_chars, by rw [address.length_text]; decide⟩
  exact ⟨stem.append text, by rw [length_registerName]; decide⟩

/-- The name of the register is shorter than those of its elements. -/
theorem fold_registerName_ne (address : Sdi12Address) {name : String}
    (longer : name.toList.length ≠ 6) : fold (registerName address) ≠ fold name := by
  intro same
  have lengths : (registerName address).toList.length = name.toList.length := by
    simpa [fold] using congrArg (fun s => s.toList.length) same
  exact longer (by rw [← lengths, length_registerName])

theorem sound (address : Sdi12Address) : (design address).Sound where
  roomy := by
    intro v member
    have named : v.name ∈ (design address).names := List.mem_map_of_mem member
    have others : ∀ n ∈ ["soil_vwc", "soil_temp", "soil_perm", "soil_ec_blk", "soil_ec_por"],
        isIdentifier n = true ∧ n.toList.length ≤ 25 := by decide
    rw [names_design] at named
    rcases List.mem_cons.1 named with same | element
    · rw [same]
      exact roomy_registerName address
    · exact ⟨(others _ element).1, (others _ element).2⟩
  fresh := by
    simp [design, Design.vars, declarations, Declaration.vars, Register.vars, Register.aliasEach,
      Register.withAlias, Register.aliasWithUnits, Register.named, Register.published,
      Variable.published, Variable.ofKind, Variable.withUnits]
  names := by
    refine VariableSet.firstRepeated_eq_none_iff.2 ⟨?_, by simp⟩
    have names : (design address).vars.map (fun v => fold v.name) =
        (design address).names.map fold := by
      simp [Design.names]
    have others : (["soil_vwc", "soil_temp", "soil_perm", "soil_ec_blk", "soil_ec_por"].map
        fold).Nodup := by decide +kernel
    rw [names, names_design, List.map_cons, List.nodup_cons]
    refine ⟨?_, others⟩
    intro member
    obtain ⟨n, hn, same⟩ := List.mem_map.1 member
    have longer : ∀ n ∈ ["soil_vwc", "soil_temp", "soil_perm", "soil_ec_blk", "soil_ec_por"],
        n.toList.length ≠ 6 := by decide
    exact fold_registerName_ne address (longer n hn) same.symm
  registers := rfl

theorem legible (address : Sdi12Address) : (design address).Legible where
  descriptor := by
    change ∀ t ∈ [descriptor.typeId, descriptor.manufacturer, descriptor.model,
      descriptor.category], OneLine t
    decide
  values := by
    simp +decide [design, Design.vars, declarations, Declaration.vars, Register.vars,
      Register.aliasEach, Register.withAlias, Register.aliasWithUnits, Register.named,
      Register.published, Variable.published, Variable.ofKind, Variable.withUnits]
  wires := by
    change ∀ w ∈ wiring.wires, OneLine w.role ∧ OneLine w.description
    decide
  note := by rintro _ ⟨⟩

/-- An elevation is required but does not enter the outline. -/
def read (s : InstrumentSettings) : Except Error Sdi12Address := do
  let address ← s.requireAddress descriptor.typeId
  let _ ← s.requireElevation descriptor.typeId
  return address

theorem isConfig_of_read_error {s : InstrumentSettings} {err : Error}
    (failed : read s = .error err) : err.IsConfig descriptor.typeId :=
  isConfig_of_read_both isConfig_of_requireAddress_error isConfig_of_requireElevation_error failed

theorem designed : Designed entry :=
  designed_of_read read design outline (fun _ _ => isConfig_of_read_error)
    (fun _ address _ => ⟨sound address, legible address, fits _ address, fun _ => fits _ address⟩)
    fun s => by simp [entry, read, Design.build, design]

end SoilProbe

end Datalogger.Instruments
