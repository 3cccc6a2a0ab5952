import Datalogger.Instruments.Conventions

/-!
Soil moisture: a buried SDI-12 probe. Each bus address has a register of its own, so that several
probes can share a bus line.
-/

namespace Datalogger.Instruments

open Template Instruction

namespace SoilProbe

def descriptor : Descriptor := ⟨"Acclima_TDR310N", "Acclima", "TDR-310N", "Soil"⟩

def wiring : Wiring :=
  .ofWires
    [.connected "Blue" (.channel .control 3) "SDI-12 data  SDI_ADD: 1-5",
      .connected "Red" (.rail .power12) "12v Power",
      .connected "White" (.rail .ground) "Ground"]

def registerName (address : Sdi12Address) : String :=
  "soil_" ++ address.text

def declarations (address : Sdi12Address) : List Declaration :=
  [(((Register.published (registerName address) 5).aliasEach
      [(1, "soil_vwc", "m3 m-3"), (2, "soil_temp", "deg C")]).withAlias 3 "soil_perm").aliasEach
        [(4, "soil_ec_blk", "uS cm-1"), (5, "soil_ec_por", "uS cm-1")]]

def elements : List (String × String) :=
  [("soil_vwc", "vwc"), ("soil_temp", "temp"), ("soil_perm", "perm"), ("soil_ec_blk", "blk"),
    ("soil_ec_por", "por")]

def observations : Table Template :=
  fiveMinutes.withItems
    (elements.map fun (name, _) => labelled (sample "1" (var name) "FP2") [var name])

/-- An archive by probe, which stays off the card. -/
def archive (address : Sdi12Address) : Table Template :=
  ((Table.named "Soils").offCard).withItems
    (elements.map fun (name, column) =>
      labelled (sample "1" (var name) "FP2") [((column ++ "_" ++ address.text : String) : Template)])

/-- The probe reports percent; the tables store a fraction. -/
def outline (address : Sdi12Address) : Outline where
  tables := some [observations, archive address]
  slowSequence := some
    ⟨"soil", .every 1 .minutes,
      [.ifThen (call "IfTime" ["4", "5", "Min"])
        [.line (poll (register (registerName address)) (terminal "Blue") address "M1!"),
          assign (var "soil_vwc") (var "soil_vwc" ++ "*0.01")]]⟩

def entry : CatalogEntry :=
  ⟨descriptor, ⟨true, true, []⟩, [], fun s => do
    let address ← s.requireAddress descriptor.typeId
    let _ ← s.requireElevation descriptor.typeId
    Instrument.build descriptor s wiring (declarations address) [] (outline address)⟩

end SoilProbe

end Datalogger.Instruments
