import Datalogger.Instruments.Wind
import Datalogger.Proofs.Instruments.Conventions

/-!
The wind monitors have all that their outlines refer to. They share their tables and the check for calm.
-/

namespace Datalogger.Instruments

open Template Instruction

namespace PropellerWind

def design : Design := ⟨descriptor, wiring, declarations, []⟩

theorem fits (L : TextLaw) : design.Fits L outline where
  tables := by simp +decide [outline, Wind.tables, maximum, totalize, L.of_oneLine]
  program := by
    simp +decide [outline, Wind.calmCheck, L.of_oneLine]
    cbv
  preScan := nofun
  postScan := nofun
  slowSequence := nofun
  functions := nofun

theorem designed : Designed entry :=
  designed_of_fits (by decide) (by decide) fits fun _ => rfl

end PropellerWind

namespace UltrasonicWind

def design : Design := ⟨descriptor, wiring, Wind.declarations, []⟩

theorem fits (L : TextLaw) : design.Fits L outline where
  tables := by simp +decide [outline, Wind.tables, maximum, totalize, L.of_oneLine]
  program := by
    simp +decide [outline, Wind.calmCheck, L.of_oneLine]
    cbv
  preScan := nofun
  postScan := nofun
  slowSequence := nofun
  functions := nofun

theorem designed : Designed entry :=
  designed_of_fits (by decide) (by decide) fits fun _ => rfl

end UltrasonicWind

end Datalogger.Instruments
