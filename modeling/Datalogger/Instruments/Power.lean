import Datalogger.Instruments.Conventions

/-!
Power: the logger's own battery and panel sensors, and a charge controller read over Modbus.
-/

namespace Datalogger.Instruments

open Template Instruction

namespace Battery

def descriptor : Descriptor :=
  ⟨"Campbell_CR1000X_Battery", "Campbell Scientific", "CR1000X Battery", "Power"⟩

def declarations : List Declaration :=
  [(Variable.published "batt_volt").withUnits "v",
    (Variable.published "shutoff_voltage").withUnits "v"]

def outline (shutoff : Binary64) : Outline where
  tables := some
    [fiveMinutes.withItems
      [unlabelled (sample "1" (var "batt_volt") "FP2"),
        unlabelled (minimum "1" (var "batt_volt") "FP2" "False" "False")]]
  preScan := some [assign (var "shutoff_voltage") shutoff.text]
  program := some [.line (call "Battery" [var "batt_volt"])]

def defaultShutoff : Binary64 := .ofDecimal false 115 (-1)

def entry : CatalogEntry :=
  ⟨descriptor, .nothing, [], fun s => do
    let shutoff ← s.number descriptor.typeId "shutoff_voltage" (some defaultShutoff)
    Instrument.build descriptor s .empty declarations [] (outline shutoff)⟩

end Battery

namespace PanelTemperature

def descriptor : Descriptor :=
  ⟨"Campbell_CR1000X_PanelTemp", "Campbell Scientific", "CR1000X Panel Temperature", "Logger"⟩

def declarations : List Declaration :=
  [(Variable.published "panel_temp").withUnits "deg C"]

def outline : Outline where
  tables := some
    [statusReport.withItems
      [labelled (average "1" (var "panel_temp") "FP2" "False") [var "panel_temp"]]]
  -- 15000 Hz rejects mains noise of 50 and 60 Hz.
  program := some [.line (call "PanelTemp" [var "panel_temp", "15000"])]

def entry : CatalogEntry :=
  ⟨descriptor, .nothing, [], fun s => Instrument.build descriptor s .empty declarations [] outline⟩

end PanelTemperature

namespace ChargeController

def descriptor : Descriptor := ⟨"ProStar_EMC1", "Morningstar", "ProStar EMC-1", "Charge Data"⟩

def elements : List (Nat × String) :=
  [(17, "charge_current"), (18, "array_current"), (19, "battery_terminal_voltage"),
    (21, "load_voltage"), (22, "net_battery_current"), (23, "load_current"), (27, "heatsink_temp"),
    (28, "battery_temp"), (29, "ambient_temp"), (34, "charge_state"), (41, "total_ah_charge_hi"),
    (42, "total_ah_charge_lo"), (47, "load_state"), (53, "total_ah_load_hi"),
    (54, "total_ah_load_lo"), (74, "daily_absorption_time"), (75, "daily_equalization_time"),
    (76, "daily_float_time")]

def readings : Register :=
  elements.foldl (fun r e => r.withAlias e.1 e.2) ((Register.scratch "ChgCntDat" 82).withType .long)

def declarations : List Declaration :=
  [(Variable.published "ModbusSocket").withType .long,
    Variable.published "ModbusResult",
    readings,
    Variable.scratch "i",
    (Variable.published "batt_volt").withUnits "v",
    (Variable.published "shutoff_voltage").withUnits "v"]

/-- Unpacks the half-precision numbers of the controller. -/
def scaleLines : List String :=
  ["Function ScaleToF16(value)",
    "    Dim out",
    "    Dim exponent",
    "    out = value",
    "    out = out AND HexToDec(\"3ff\")",
    "    out = out / 1024.0",
    "    out = out + 1",
    "    value = value >> 10",
    "",
    "    exponent = value AND HexToDec(\"1f\")",
    "    exponent = exponent - 15",
    "    out = out * PWR(2, exponent)",
    "",
    "    Return out",
    "EndFunction"]

def scaleFunction : String :=
  Text.joinLines scaleLines

def element (index : Template) : Template :=
  register "ChgCntDat" ++ "(" ++ index ++ ")"

/-- A closed socket means stale data, so the whole register is blanked. -/
def blank : Statement Template :=
  .ifThen (compare (var "ModbusSocket") "=" "0")
    [.loop (var "i") "1" "82" none [assign (element (var "i")) "NAN"]]

def outline (host : String) (shutoff : Binary64) : Outline where
  tables := some
    [fiveMinutes.withItems
        [unlabelled (sample "1" (var "batt_volt") "FP2"),
          unlabelled (minimum "1" (var "batt_volt") "FP2" "False" "False")],
      (Table.named "ChargeData").withItems
        (elements.map fun e => unlabelled (sample "1" (var e.2) "Long"))]
  preScan := some [assign (var "shutoff_voltage") shutoff.text]
  functions := some [scaleFunction]
  slowSequence := some
    ⟨"Charge", .every 1 .minutes,
      [assign (var "ModbusSocket") (call "TCPOpen" [quotedText host, "502", "1"]),
        .line (call "ModbusClient"
          [var "ModbusResult", var "ModbusSocket", "9600", "1", "3", register "ChgCntDat" ++ "()",
            "1", "82", "3", "1500", "3"]),
        assign (var "batt_volt") ("ScaleToF16(" ++ element "25" ++ ")"),
        blank]⟩

def defaultHost : String := "192.168.1.253"

def defaultShutoff : Binary64 := .ofDecimal false 22 0

def entry : CatalogEntry :=
  ⟨descriptor, .nothing, [], fun s => do
    let host ← s.string descriptor.typeId "modbus_host" (some defaultHost)
    let shutoff ← s.number descriptor.typeId "shutoff_voltage" (some defaultShutoff)
    Instrument.build descriptor s .empty declarations [] (outline host shutoff)⟩

end ChargeController

end Datalogger.Instruments
