import Datalogger.Instruments.Weather
import Datalogger.Proofs.Instruments.Conventions

/-!
The weather sensors have all that their outlines refer to.
-/

namespace Datalogger.Instruments

open Template Instruction

namespace Barometer

def design : Design := ⟨descriptor, wiring, declarations, []⟩

theorem fits (L : TextLaw) : design.Fits L outline where
  tables := by simp +decide [outline, average, L.of_oneLine]
  program := by
    simp +decide [outline, L.of_oneLine]
    cbv
  preScan := nofun
  postScan := nofun
  slowSequence := nofun
  functions := nofun

theorem designed : Designed entry :=
  designed_of_fits (by decide) (by decide) fits fun _ => rfl

end Barometer

namespace HumidityProbe

def design : Design := ⟨descriptor, wiring, declarations, []⟩

theorem fits (L : TextLaw) : design.Fits L outline where
  tables := by simp +decide [outline, average, maximum, minimum, L.of_oneLine]
  preScan := by simp +decide [outline, L.of_oneLine]
  program := by
    simp +decide [outline, wake, L.of_oneLine]
    cbv
  postScan := nofun
  slowSequence := nofun
  functions := nofun

theorem designed : Designed entry :=
  designed_of_fits (by decide) (by decide) fits fun _ => rfl

end HumidityProbe

namespace Pyranometer

def design : Design := ⟨descriptor, wiring, declarations, []⟩

theorem fits (L : TextLaw) (calibration : Binary64) : design.Fits L (outline calibration) where
  tables := by simp +decide [outline, average, minimum, L.of_oneLine]
  preScan := by simp +decide [outline, L.of_oneLine, oneLine_number]
  program := by
    simp +decide [outline, L.of_oneLine]
    cbv
  postScan := nofun
  slowSequence := nofun
  functions := nofun

theorem designed : Designed entry :=
  designed_of_read (·.number descriptor.typeId "pyran_calib" none) (fun _ => design) outline
    (fun _ _ => isConfig_of_param_error)
    (fun _ calibration _ => .of_fits (by decide) (by decide) fun L => fits L calibration)
    fun _ => rfl

end Pyranometer

end Datalogger.Instruments
