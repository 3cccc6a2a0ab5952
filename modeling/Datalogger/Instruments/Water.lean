import Datalogger.Instruments.Conventions

/-!
Water on an SDI-12 bus: a pressure probe in a well, a weighing precipitation gauge, and an ultrasonic
snow depth sensor.
-/

namespace Datalogger.Instruments

open Template Instruction

namespace PressureProbe

def descriptor : Descriptor := ⟨"OTT_PLS500", "OTT", "PLS 500", "Pressure Probe"⟩

def wiring : Wiring :=
  .ofWires
    [.connected "Blue" (.rail .ground) "",
      .connected "Red" (.rail .power12) "(on CR1000X)",
      .connected "Grey" (.channel .control 5) "SDI-12 data"]

def declarations : List Declaration :=
  [((Register.published "Transducer" 3).aliasEach
      [(1, "well_lvl", "m"), (2, "well_tmp", "deg C")]).withAlias 3 "well_status"]

def outline (address : Sdi12Address) : Outline where
  tables := some
    [fiveMinutes.withItems
      [labelled (average "1" (var "well_lvl") "FP2" "False") [var "well_lvl"],
        labelled (average "1" (var "well_tmp") "FP2" "False") [var "well_tmp"],
        labelled (sample "1" (var "well_status") "FP2") [var "well_status"]]]
  slowSequence := some
    ⟨"Transducer", .every 1 .minutes,
      [.line (poll (register "Transducer") (terminal "Grey") address "M!")]⟩

def entry : CatalogEntry :=
  ⟨descriptor, { Requirements.nothing with address := true }, [], fun s => do
    let address ← s.requireAddress descriptor.typeId
    Instrument.build descriptor s wiring declarations [] (outline address)⟩

end PressureProbe

namespace PrecipitationGauge

def descriptor : Descriptor := ⟨"OTT_Pluvio2", "OTT", "Pluvio2 L 400", "Precipitation"⟩

def wiring : Wiring :=
  .ofWires
    [.unconnected "Black" "DC Converter black (out) (#1 not used)",
      .connected "Green" (.channel .control 5) "SDI-12 data SDI_ADD: 2",
      .connected "White" (.rail .ground) "Data Ground",
      .unconnected "Red" "24V DC Converter Out (Yellow)",
      .connected "Yellow" (.rail .power12) "12v Power",
      .connected "Brown" (.rail .ground) "Power Ground"]

def readings : Register :=
  (Register.published "Pluvio" 9).aliasEach
    [(1, "ppt_max_rate", "mm hr-1"), (2, "ppt", "mm"), (3, "pluv_accuNRT", "mm"),
      (4, "pluv_accuTtlNRT", "mm"), (5, "pluv_fill", "mm"), (6, "pluv_bucketNRT", "mm"),
      (7, "pluv_temp", "deg C"), (8, "pluv_heater", "code"), (9, "pluv_gagestat", "code")]

def declarations : List Declaration :=
  [readings, (Variable.published "pluv_flag").withInitial "1"]

/-- The gauge reports what fell since its last poll, so the total only counts a scan in which the slow
sequence fetched new data. -/
def outline (address : Sdi12Address) : Outline where
  tables := some
    [fiveMinutes.withItems
        [labelled (totalize "1" (var "ppt") "IEEE4" (var "pluv_flag")) [var "ppt"],
          labelled (maximum "1" (var "ppt_max_rate") "IEEE4" "False" "False") [var "ppt_max_rate"],
          labelled (sample "1" (var "pluv_fill") "IEEE4") [var "pluv_fill"],
          labelled (sample "1" (var "pluv_heater") "FP2") [var "pluv_heater"]],
      statusReport.withItems
        [unlabelled (sample "1" (var "pluv_gagestat") "FP2"),
          unlabelled (sample "1" (var "pluv_temp") "FP2")]]
  postScan := some [assign (var "pluv_flag") "1"]
  slowSequence := some
    ⟨"pluvio", .every 1 .minutes,
      [.line (poll (register "Pluvio") (terminal "Green") address "C!"),
        assign (var "pluv_flag") "0"]⟩

def entry : CatalogEntry :=
  ⟨descriptor, { Requirements.nothing with address := true }, [], fun s => do
    let address ← s.requireAddress descriptor.typeId
    Instrument.build descriptor s wiring declarations [] (outline address)⟩

end PrecipitationGauge

/-! The distance to bare ground is kept in a file on the logger, one for each instance, so that it
survives a restart; setting `Set_D2G` takes it from the next reading. -/

namespace SnowDepth

def descriptor : Descriptor :=
  ⟨"Campbell_SnowVue10", "Campbell Scientific", "SnowVUE10", "Snow"⟩

def dependencies : List Dependency :=
  [⟨"air_temperature", "Air temperature in deg C for the speed-of-sound correction"⟩]

def wiring : Wiring :=
  .ofWires
    [.connected "White" (.channel .control 1) "SDI-12 data SDI_ADD: 1",
      .connected "Brown" (.rail .power12) "Fuse Block 0.5A fuse power",
      .connected "Black" (.rail .ground) "Power Ground",
      .connected "Clear" (.rail .analogGround) ""]

def readings : Register :=
  ((Register.published "SnowVUE" 2).aliasWithUnits 1 "Dist2Targ" "m").withAlias 2 "snow_depth_q"

def health : Register :=
  (Register.published "SnowVUE_Meta" 8).aliasEach
    [(2, "IntTemp", "deg C"), (3, "IntRH", "%"), (4, "Pitch", "deg"), (5, "Roll", "deg"),
      (6, "SupVolt", "v"), (7, "ResFreq", "kHz"), (8, "Alert", "unitless")]

def declarations : List Declaration :=
  [(Variable.published "SnowVUE_Go").withType .boolean,
    (Variable.published "Set_D2G").withType .boolean,
    readings,
    (Variable.published "Dist2Gnd").withUnits "m",
    (Variable.published "TCDT").withUnits "m",
    (Variable.published "snow_depth").withUnits "cm",
    (Variable.published "snow_min").withUnits "cm",
    (Variable.scratch "FH").withType .long,
    (Variable.scratch "dummystr").withType (.string none),
    health]

def groundFile : Template :=
  quoted ("USR:" ++ var "Dist2Gnd" ++ ".txt")

def restore (groundDistance : Binary64) : Statement Template :=
  .ifThenElse (compare (call "FileSize" [groundFile]) ">" "0")
    [assign (var "FH") (call "FileOpen" [groundFile, quotedText "r", "0"]),
      .line (call "FileRead" [var "FH", var "dummystr", "10"]),
      .line (call "SplitStr" [var "Dist2Gnd", var "dummystr", quotedText "", "1", "0"]),
      .line (call "FileClose" [var "FH"])]
    [assign (var "Dist2Gnd") groundDistance.text]

def measure (address : Sdi12Address) : Statement Template :=
  .ifThen (var "SnowVUE_Go")
    [.line (poll (register "SnowVUE") (terminal "White") address "M1!"),
      .line (poll (register "SnowVUE_Meta") (terminal "White") address "M9!")]

def takeGroundDistance : Statement Template :=
  .ifThen (var "Set_D2G")
    [assign (var "Dist2Gnd") (var "TCDT"),
      assign (var "FH") (call "FileOpen" [groundFile, quotedText "w", "0"]),
      .line (call "Sprintf" [var "dummystr", quotedText "%f", var "Dist2Gnd"]),
      .line (call "FileWrite" [var "FH", var "dummystr", "0"]),
      .line (call "FileClose" [var "FH"]),
      assign (var "Set_D2G") "False"]

/-- A reading starts ahead of each five-minute boundary. -/
def outline (address : Sdi12Address) (groundDistance : Binary64) : Outline where
  tables := some
    [fiveMinutes.withItems
        [labelled (sample "1" (var "snow_depth") "FP2") [var "snow_depth"],
          labelled (sample "1" (var "snow_depth_q") "FP2") [var "snow_depth_q"]],
      statusReport.withItems
        [labelled (minimum "1" (var "snow_min") "FP2" "False" "False") [var "snow_min"]]]
  preScan := some [restore groundDistance]
  program := some
    [.ifThen (call "IfTime" ["237", "300", "Sec"]) [assign (var "SnowVUE_Go") "True"],
      .ifThen (var "Set_D2G") [assign (var "SnowVUE_Go") "True"]]
  slowSequence := some
    ⟨"Snow", .every 1 .minutes,
      [measure address,
        assign (var "SnowVUE_Go") "False",
        assign (var "TCDT")
          (var "Dist2Targ" ++ "*SQR((" ++ dependency "air_temperature" ++ "+273.15)/273.15)"),
        assign (var "snow_depth") ("(" ++ var "Dist2Gnd" ++ " - " ++ var "TCDT" ++ ") * 100"),
        .ifThen (compare (var "snow_depth") "<" "0")
          [assign (var "snow_min") (var "snow_depth"), assign (var "snow_depth") "0"],
        takeGroundDistance]⟩

def defaultGroundDistance : Binary64 := .ofDecimal false 19 (-1)

def entry : CatalogEntry :=
  ⟨descriptor, { Requirements.nothing with address := true }, dependencies, fun s => do
    let address ← s.requireAddress descriptor.typeId
    let groundDistance ←
      s.number descriptor.typeId "ground_distance" (some defaultGroundDistance)
    Instrument.build descriptor s wiring declarations dependencies (outline address groundDistance)⟩

end SnowDepth

end Datalogger.Instruments
