import Datalogger.Instruments.Water
import Datalogger.Proofs.Instruments.Conventions

/-!
The devices on the SDI-12 bus have all that their outlines refer to, at whatever address.
-/

namespace Datalogger.Instruments

open Template Instruction

namespace PressureProbe

def design : Design := ⟨descriptor, wiring, declarations, []⟩

theorem fits (L : TextLaw) (address : Sdi12Address) : design.Fits L (outline address) where
  tables := by simp +decide [outline, average, sample, L.of_oneLine]
  slowSequence := by
    simp +decide [outline, L.of_oneLine]
    cbv
  preScan := nofun
  program := nofun
  postScan := nofun
  functions := nofun

theorem designed : Designed entry :=
  designed_of_read (·.requireAddress descriptor.typeId) (fun _ => design) outline
    (fun _ _ => isConfig_of_requireAddress_error)
    (fun _ address _ => .of_fits (by decide) (by decide) fun L => fits L address)
    fun _ => rfl

end PressureProbe

namespace PrecipitationGauge

def design : Design := ⟨descriptor, wiring, declarations, []⟩

theorem fits (L : TextLaw) (address : Sdi12Address) : design.Fits L (outline address) where
  tables := by simp +decide [outline, totalize, maximum, sample, L.of_oneLine]
  postScan := by simp +decide [outline, L.of_oneLine]
  slowSequence := by
    simp +decide [outline, L.of_oneLine]
    cbv
  preScan := nofun
  program := nofun
  functions := nofun

theorem designed : Designed entry :=
  designed_of_read (·.requireAddress descriptor.typeId) (fun _ => design) outline
    (fun _ _ => isConfig_of_requireAddress_error)
    (fun _ address _ => .of_fits (by decide) (by decide) fun L => fits L address)
    fun _ => rfl

end PrecipitationGauge

namespace SnowDepth

def design : Design := ⟨descriptor, wiring, declarations, dependencies⟩

theorem fits (L : TextLaw) (address : Sdi12Address) (groundDistance : Binary64) :
    design.Fits L (outline address groundDistance) where
  tables := by simp +decide [outline, sample, minimum, L.of_oneLine]
  preScan := by simp +decide [outline, restore, groundFile, L.of_oneLine, oneLine_number]
  program := by simp +decide [outline, L.of_oneLine]
  slowSequence := by
    simp +decide [outline, measure, takeGroundDistance, groundFile, L.of_oneLine]
    cbv
  postScan := nofun
  functions := nofun

/-- The address is asked for before the distance. -/
def read (s : InstrumentSettings) : Except Error (Sdi12Address × Binary64) := do
  let address ← s.requireAddress descriptor.typeId
  let groundDistance ← s.number descriptor.typeId "ground_distance" (some defaultGroundDistance)
  return (address, groundDistance)

theorem isConfig_of_read_error {s : InstrumentSettings} {err : Error}
    (failed : read s = .error err) : err.IsConfig descriptor.typeId :=
  isConfig_of_read_both isConfig_of_requireAddress_error isConfig_of_param_error failed

theorem designed : Designed entry :=
  designed_of_read read (fun _ => design) (fun r => outline r.1 r.2) (fun _ _ => isConfig_of_read_error)
    (fun _ r _ => .of_fits (by decide) (by decide) fun L => fits L r.1 r.2)
    fun s => by simp [entry, read, Design.build, design]

end SnowDepth

end Datalogger.Instruments
