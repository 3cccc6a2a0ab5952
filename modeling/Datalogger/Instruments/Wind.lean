import Datalogger.Instruments.Conventions

/-!
Wind monitors: a propeller anemometer with pulse-counted speed and potentiometer direction, and an
ultrasonic one with analog outputs. Both log vector-averaged wind, gusts, and a count of calm seconds.
-/

namespace Datalogger.Instruments

open Template Instruction

namespace Wind

def declarations : List Declaration :=
  [(Variable.published "wind_spd").withUnits "m s-1",
    (Variable.published "wind_dir").withUnits "arcdeg",
    (Variable.published "wind_timer").withUnits "sec",
    Variable.field "wind_dir_sd",
    Variable.field "windgust"]

def tables : List (Table Template) :=
  [fiveMinutes.withItems
      [labelled
          ⟨"WindVector", ["1", var "wind_spd", var "wind_dir", "FP2", "False", "0", "0", "0"]⟩
          [var "wind_spd", var "wind_dir", var "wind_dir_sd"],
        labelled (maximum "1" (var "wind_spd") "FP2" "False" "False") [var "windgust"]],
    statusReport.withItems
      [labelled (totalize "1" (var "wind_timer") "IEEE4" "False") [var "wind_timer"]]]

/-- Direction means nothing in calm air; calm seconds are counted instead. -/
def calmCheck : Statement Template :=
  .ifThenElse (compare (var "wind_spd") "<=" "0")
    [assign (var "wind_dir") "NAN", assign (var "wind_timer") "3"]
    [assign (var "wind_timer") "0"]

end Wind

namespace PropellerWind

def descriptor : Descriptor := ⟨"RMYoung_05108_77", "RM Young", "05108-77", "Wind"⟩

def wiring : Wiring :=
  ⟨[.connected "Red" (.channel .pulse 1) "WS Signal      WS SIG",
      .connected "White" (.channel .excitation 2) "WD Excite      WD EXC",
      .connected "Green" (.channel .singleEnded 7) "WD Signal      WD SIG",
      .connected "Black" (.rail .analogGround) "Signal G       WD REF",
      .connected "Brown" (.rail .ground) "Earth G        GND*"],
    some "* NOTE: Ground to EARTH in junction box directly to mast"⟩

def declarations : List Declaration :=
  [.scalar (.constant "WS_offset" "0"), .scalar (.constant "WS_multiplier" "0.1666")] ++
    Wind.declarations

def outline : Outline where
  tables := some Wind.tables
  program := some
    [.line (call "BrHalf"
        [var "wind_dir", "1", "mV5000", terminal "Green", terminal "White", "1", "2500", "True", "0",
          "60", "355", "0"]),
      .line (call "PulseCount"
        [var "wind_spd", "1", terminal "Red", "5", "1", var "WS_multiplier", var "WS_offset"]),
      Wind.calmCheck]

def entry : CatalogEntry :=
  ⟨descriptor, .nothing, [], fun s => Instrument.build descriptor s wiring declarations [] outline⟩

end PropellerWind

namespace UltrasonicWind

def descriptor : Descriptor := ⟨"RMYoung_09106", "RM Young", "09106", "Wind"⟩

def wiring : Wiring :=
  .ofWires
    [.connected "Red" (.rail .power12) "12v Power",
      .connected "White" (.rail .analogGround) "Signal G",
      .connected "Clear" (.rail .analogGround) "Signal G",
      .connected "Green" (.channel .singleEnded 13) "WD Signal",
      .connected "Brown" (.channel .singleEnded 14) "WS Signal",
      .connected "Black" (.rail .ground) "Power Ground"]

def outline : Outline where
  tables := some Wind.tables
  program := some
    [.line (call "VoltSE"
        [var "wind_spd", "1", "mV5000", terminal "Brown", "0", "0", "15000", "0.02", "0"]),
      .line (call "VoltSE"
        [var "wind_dir", "1", "mV5000", terminal "Green", "0", "0", "15000", "0.108", "0"]),
      .ifThen (compare (var "wind_dir") ">" "360")
        [assign (var "wind_dir") (var "wind_dir" ++ " - 360")],
      Wind.calmCheck]

def entry : CatalogEntry :=
  ⟨descriptor, .nothing, [], fun s => Instrument.build descriptor s wiring Wind.declarations [] outline⟩

end UltrasonicWind

end Datalogger.Instruments
