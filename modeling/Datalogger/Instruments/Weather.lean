import Datalogger.Instruments.Conventions

/-!
Weather sensors: a barometer, a humidity and temperature probe, and a pyranometer.
-/

namespace Datalogger.Instruments

open Template Instruction

namespace Barometer

def descriptor : Descriptor := ⟨"Setra_CS100", "Setra", "CS100", "Barometer"⟩

def wiring : Wiring :=
  .ofWires
    [.connected "Blue" (.channel .singleEnded 2) "Signal H",
      .connected "Yellow" (.rail .analogGround) "Signal G",
      .connected "Clear" (.rail .analogGround) "Signal G",
      .connected "Red" (.rail .power12) "12v Power",
      .connected "Black" (.rail .ground) "Power Ground",
      .connected "Green" (.channel .control 2) "Control"]

def declarations : List Declaration :=
  [(Variable.published "bp").withUnits "kPa"]

def outline : Outline where
  tables := some
    [fiveMinutes.withItems [unlabelled (average "1" (var "bp") "IEEE4" "False")]]
  -- The sensor is switched on through its control line before each reading.
  program := some
    [.line (call "PortSet" [terminal "Green", "1"]),
      .line (call "VoltSE"
        [var "bp", "1", "mV5000", terminal "Blue", "True", "0", "60", "0.2", "600"]),
      assign (var "bp") (var "bp" ++ "*0.1")]

def entry : CatalogEntry :=
  ⟨descriptor, .nothing, [], fun s => Instrument.build descriptor s wiring declarations [] outline⟩

end Barometer

namespace HumidityProbe

def descriptor : Descriptor := ⟨"Vaisala_HMP155", "Vaisala", "HMP-155 (RS-485)", "RH/T"⟩

def wiring : Wiring :=
  .ofWires
    [.connected "Brown" (.channel .serial 7) "RS485 B",
      .connected "Pink" (.channel .control 8) "RS485 A",
      .connected "Red" (.channel .serialGround 2) "",
      .connected "Blue" (.rail .power12) "12V Power",
      .connected "Black/Clear" (.rail .analogGround) ""]

def declarations : List Declaration :=
  [((Register.published "rhtemp" 2).withType .float).aliasEach
      [(1, "rh", "%"), (2, "air_temp", "deg C")],
    (Variable.published "reset_hmp155").withType .boolean,
    (Variable.scratch "NBytesReturned").withType .long,
    (Variable.scratch "SerialIngest").withType (.string (some 26)),
    (Variable.scratch "String_1").withType (.string none),
    (Variable.scratch "String_2").withType (.string none),
    Variable.constant "CRLF" "CHR(13)+CHR(10)",
    Variable.field "air_temp_max",
    Variable.field "air_temp_min"]

/-- Puts the probe into run mode, once after power-up. -/
def wake : Statement Template :=
  .ifThen (var "reset_hmp155")
    [.line (call "SerialOpen" [terminal "Brown", "4800", "10", "0", "53", "4"]),
      assign (var "String_1") ("\"SMODE RUN\"+" ++ var "CRLF"),
      assign (var "String_2") ("\"R\"+" ++ var "CRLF"),
      .line (call "SerialOut" [terminal "Brown", var "String_1", quotedText "RUN", "3", "100"]),
      .line (call "Delay" ["0", "500", "mSec"]),
      .line (call "SerialOut" [terminal "Brown", var "String_2", quotedText "RH", "3", "100"]),
      assign (var "reset_hmp155") "False"]

def outline : Outline where
  tables := some
    [fiveMinutes.withItems
      [labelled (average "1" (var "air_temp") "FP2" "False") [var "air_temp"],
        labelled (maximum "1" (var "air_temp") "FP2" "False" "True") [var "air_temp_max"],
        labelled (minimum "1" (var "air_temp") "FP2" "False" "True") [var "air_temp_min"],
        labelled (average "1" (var "rh") "FP2" "False") [var "rh"]]]
  preScan := some [assign (var "reset_hmp155") "True"]
  program := some
    [wake,
      .line (call "SerialInRecord"
        [terminal "Brown", var "SerialIngest", "00", "25", "&H0D0A", var "NBytesReturned", "01"]),
      .line (call "SplitStr" [var "rh", var "SerialIngest", quotedText "=", "2", "0"]),
      .line (call "SerialFlush" [terminal "Brown"])]

def entry : CatalogEntry :=
  ⟨descriptor, .nothing, [], fun s => Instrument.build descriptor s wiring declarations [] outline⟩

end HumidityProbe

namespace Pyranometer

def descriptor : Descriptor := ⟨"Apogee_SP510", "Apogee", "SP-510 SS", "Pyranometer"⟩

def wiring : Wiring :=
  .ofWires
    [.connected "White" (.channel .differentialHigh 2) "Signal Positive",
      .connected "Black" (.channel .differentialLow 2) "Signal Negative",
      .connected "Clear" (.rail .analogGround) "Shield Ground",
      .connected "Yellow" (.rail .power12) "Fuse block 0.5A fuse heater",
      .connected "Blue" (.rail .ground) "Power ground for heater"]

def declarations : List Declaration :=
  [(Variable.published "sol_rad").withUnits "W m-2",
    (Variable.published "sol_min").withUnits "W m-2",
    Variable.published "pyran_calib"]

/-- The calibration is the multiplier of the one sensor, in W m-2 per mV. Readings at night come out
slightly negative; they are kept in a variable of their own. -/
def outline (calibration : Binary64) : Outline where
  tables := some
    [fiveMinutes.withItems [labelled (average "1" (var "sol_rad") "FP2" "False") [var "sol_rad"]],
      statusReport.withItems
        [labelled (minimum "1" (var "sol_min") "FP2" "False" "False") [var "sol_min"]]]
  preScan := some [assign (var "pyran_calib") calibration.text]
  program := some
    [.line (call "VoltDiff"
        [var "sol_rad", "1", "mV200", terminal "White", "True", "0", "60", var "pyran_calib", "0"]),
      .ifThen (compare (var "sol_rad") "<" "0")
        [assign (var "sol_min") (var "sol_rad"), assign (var "sol_rad") "0"]]

def entry : CatalogEntry :=
  ⟨descriptor, { Requirements.nothing with params := ["pyran_calib"] }, [], fun s => do
    let calibration ← s.number descriptor.typeId "pyran_calib" none
    Instrument.build descriptor s wiring declarations [] (outline calibration)⟩

end Pyranometer

end Datalogger.Instruments
