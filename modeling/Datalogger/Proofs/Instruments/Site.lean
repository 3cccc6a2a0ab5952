import Datalogger.Instruments.Site
import Datalogger.Proofs.Instruments.Conventions

/-!
The modem, the cameras and the door switch have all that their outlines refer to.
-/

namespace Datalogger.Instruments

open Template Instruction

namespace Modem

def design : Design := ⟨descriptor, wiring, declarations, powerDependencies⟩

theorem fits (L : TextLaw) : design.Fits L outline where
  preScan := by simp +decide [outline, switchOn, L.of_oneLine]
  program := by
    simp +decide [outline, switchOn, switchOff, L.of_oneLine]
    cbv
  tables := nofun
  postScan := nofun
  slowSequence := nofun
  functions := nofun

theorem designed : Designed entry :=
  designed_of_fits (by decide) (by decide) fits fun _ => rfl

end Modem

namespace Camera

def design (descriptor : Descriptor) : Design :=
  ⟨descriptor, wiring, declarations, powerDependencies⟩

/-- The description of a model plays no part. -/
theorem names_design (descriptor : Descriptor) :
    (design descriptor).names = ["Camera_Power", "Camera_Power_Manual"] := rfl

theorem fits (descriptor : Descriptor) (L : TextLaw) : (design descriptor).Fits L outline where
  preScan := by simp +decide [outline, names_design, L.of_oneLine]
  program := by
    have wired : (design descriptor).wiring.connected "Red" = true := by
      change wiring.connected "Red" = true
      cbv
    have needed : (design descriptor).dependencies = powerDependencies := rfl
    simp +decide [outline, applyPower, names_design, needed, wired, L.of_oneLine]
  tables := nofun
  postScan := nofun
  slowSequence := nofun
  functions := nofun

theorem designed_movable : Designed (entry movable) :=
  designed_of_fits (by decide) (by decide) (fits movable) fun _ => rfl

theorem designed_compact : Designed (entry compact) :=
  designed_of_fits (by decide) (by decide) (fits compact) fun _ => rfl

end Camera

namespace DoorSwitch

def design : Design := ⟨descriptor, wiring, declarations, []⟩

theorem fits (L : TextLaw) : design.Fits L outline where
  tables := by simp +decide [outline, maximum, L.of_oneLine]
  program := by
    simp +decide [outline, stale, L.of_oneLine]
    cbv
  preScan := nofun
  postScan := nofun
  slowSequence := nofun
  functions := nofun

theorem designed : Designed entry :=
  designed_of_fits (by decide) (by decide) fits fun _ => rfl

end DoorSwitch

end Datalogger.Instruments
