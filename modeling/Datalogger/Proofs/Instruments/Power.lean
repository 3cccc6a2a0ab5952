import Datalogger.Instruments.Power
import Datalogger.Proofs.Instruments.Conventions

/-!
The power devices have all that their outlines refer to. The charge controller brings a function of its
own, which is complete in itself.
-/

namespace Datalogger.Instruments

open Template Instruction
open Text (OneLine joinLines)

namespace Battery

def design : Design := ⟨descriptor, .empty, declarations, []⟩

theorem fits (L : TextLaw) (shutoff : Binary64) : design.Fits L (outline shutoff) where
  tables := by simp +decide [outline, sample, minimum, L.of_oneLine]
  preScan := by simp +decide [outline, L.of_oneLine, oneLine_number]
  program := by simp +decide [outline, L.of_oneLine]
  postScan := nofun
  slowSequence := nofun
  functions := nofun

theorem designed : Designed entry :=
  designed_of_read (·.number descriptor.typeId "shutoff_voltage" (some defaultShutoff))
    (fun _ => design) outline (fun _ _ => isConfig_of_param_error)
    (fun _ shutoff _ => .of_fits (by decide) (by decide) fun L => fits L shutoff)
    fun _ => rfl

end Battery

namespace PanelTemperature

def design : Design := ⟨descriptor, .empty, declarations, []⟩

theorem fits (L : TextLaw) : design.Fits L outline where
  tables := by simp +decide [outline, average, L.of_oneLine]
  program := by simp +decide [outline, L.of_oneLine]
  preScan := nofun
  postScan := nofun
  slowSequence := nofun
  functions := nofun

theorem designed : Designed entry :=
  designed_of_fits (by decide) (by decide) fits fun _ => rfl

end PanelTemperature

namespace ChargeController

def design : Design := ⟨descriptor, .empty, declarations, []⟩

theorem routine_scaleLines : Routine scaleLines where
  nonempty := by decide
  oneLine := by decide
  balanced := by
    intro stack empty
    rw [List.eq_nil_of_length_eq_zero empty]
    decide
  every := by
    change ∀ l ∈ scaleLines, ∀ k ∈ structural, ¬ k.toList <+: content l
    decide

section Fits

variable {D : Design} {L : TextLaw}

theorem part_element {index : Template} :
    D.Part L (element index) ↔ "ChgCntDat" ∈ D.registerNames ∧ D.Part L index := by
  have brackets : L.holds "(" ∧ L.holds ")" :=
    ⟨L.of_oneLine (by decide), L.of_oneLine (by decide)⟩
  simp [element, brackets]

theorem every_assign_element {index value : Template} :
    (assign (element index) value).Every (D.Line L) (D.Part L) D.Counter ↔
      D.Part L (element index) ∧ D.Part L value := by
  have equals : L.holds " = " := L.of_oneLine (by decide)
  have clear : tells (element index ++ [Piece.text " = "] ++ value).stem = true := by
    change tells "ChgCntDat" = true
    decide
  rw [assign, Statement.every_line, Design.line_iff, and_iff_left clear]
  simp [equals]

end Fits

theorem fits (L : TextLaw) {host : String} (plain : L.holds (quoted host)) (shutoff : Binary64) :
    design.Fits L (outline host shutoff) where
  tables := by
    have charge : ∀ items, design.FitsTable L ((Table.named "ChargeData").withItems items) ↔
        ∀ i ∈ items, design.Line L i.output ∧ ∀ f ∈ i.fields, design.Part L f := fun _ =>
      Design.fitsTable_withItems rfl (.of_test (by decide) (by decide)) (by cbv)
    simp +decide [outline, charge, elements, sample, minimum, L.of_oneLine]
  preScan := by simp +decide [outline, L.of_oneLine, oneLine_number]
  functions := by
    simp only [outline, Option.mem_some_iff, forall_eq', List.mem_singleton, forall_eq]
    exact ⟨scaleLines, routine_scaleLines, rfl⟩
  slowSequence := by
    simp +decide [outline, blank, part_element, every_assign_element, plain, L.of_oneLine]
  program := nofun
  postScan := nofun

def read (s : InstrumentSettings) : Except Error (String × Binary64) := do
  let host ← s.string descriptor.typeId "modbus_host" (some defaultHost)
  let shutoff ← s.number descriptor.typeId "shutoff_voltage" (some defaultShutoff)
  return (host, shutoff)

theorem isConfig_of_read_error {s : InstrumentSettings} {err : Error}
    (failed : read s = .error err) : err.IsConfig descriptor.typeId :=
  isConfig_of_read_both isConfig_of_param_error isConfig_of_param_error failed

theorem describes {s : InstrumentSettings} {r : String × Binary64} (made : read s = .ok r) :
    Describes design (outline r.1 r.2) s := by
  obtain ⟨host, given, made⟩ := Outcome.bind_eq_ok_iff.1 made
  obtain ⟨shutoff, _, same⟩ := Outcome.bind_eq_ok_iff.1 made
  cases same
  refine ⟨Design.sound_of_isSound (by decide), Design.legible_of_isLegible (by decide),
    fits _ trivial shutoff, fun single => fits _ ?_ shutoff⟩
  exact oneLine_quoted (oneLine_of_string single (by decide) given)

theorem designed : Designed entry :=
  designed_of_read read (fun _ => design) (fun r => outline r.1 r.2) (fun _ _ => isConfig_of_read_error)
    (fun _ _ => describes) fun s => by simp [entry, read, Design.build, design]

end ChargeController

end Datalogger.Instruments
