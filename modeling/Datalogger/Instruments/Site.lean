import Datalogger.Instruments.Conventions

/-!
Site equipment: a cellular modem, cameras on switched power, and a door switch on the enclosure.
-/

namespace Datalogger.Instruments

open Template Instruction

/-! The modem is power-cycled once a night. On a low battery it only comes up for a few minutes every
four hours. -/

namespace Modem

def descriptor : Descriptor := ⟨"Sierra_RV50X", "Sierra Wireless", "RV50X", "Modem"⟩

def wiring : Wiring :=
  .ofWires
    [.connected "Black" (.rail .ground) "",
      .connected "Red" (.rail .power12) "(On CR1000X)",
      .connected "White" (.channel .switchedPower 2) ""]

def declarations : List Declaration :=
  [(Variable.published "Modem_Power").withType .boolean]

def switchOn : List (Statement Template) := [assign (var "Modem_Power") "True"]

def switchOff : List (Statement Template) := [assign (var "Modem_Power") "False"]

def outline : Outline where
  preScan := some switchOn
  program := some
    [.ifThenElse (call "TimeIsBetween" ["2", "3", "1440", "Min"]) switchOff switchOn,
      .ifThen (compare (dependency "battery_voltage") "<" (dependency "shutoff_voltage"))
        [.ifThenElse (call "TimeIsBetween" ["1", "4", "240", "Min"]) switchOn switchOff],
      .line (call "SW12" [terminal "White", var "Modem_Power"])]

def entry : CatalogEntry :=
  ⟨descriptor, .nothing, powerDependencies, fun s =>
    Instrument.build descriptor s wiring declarations powerDependencies outline⟩

end Modem

/-! With `Camera_Power_Manual` set, the operator's `Camera_Power` is applied as it is. Otherwise the
camera is off for an hour each night, and whenever the battery is below the shutoff voltage. -/

namespace Camera

def movable : Descriptor := ⟨"EnviroCams_iPatrol", "EnviroCams", "iPatrol PTZ", "IP Camera"⟩

def compact : Descriptor := ⟨"EnviroCams_Scout", "EnviroCams", "Scout PTZ", "IP Camera"⟩

def wiring : Wiring :=
  ⟨[.connected "Black" (.rail .ground) "#4 Black to Ground",
      .connected "Red" (.channel .switchedPower 1)
        "CR1000X SW1 and #2 red to fuse block (6.2A fuse)"],
    some "Red from camera to #1 and white to ground (yellow cable)"⟩

def declarations : List Declaration :=
  [(Variable.published "Camera_Power").withType .boolean,
    (Variable.published "Camera_Power_Manual").withType .boolean]

def applyPower : Statement Template :=
  .line (call "SW12" [terminal "Red", var "Camera_Power"])

def outline : Outline where
  preScan := some
    [assign (var "Camera_Power") "True", assign (var "Camera_Power_Manual") "True"]
  program := some
    [.ifThenElse (var "Camera_Power_Manual") [applyPower]
      [.ifThenElse (call "TimeIsBetween" ["2", "3", "1440", "Min"])
          [assign (var "Camera_Power") "False"] [assign (var "Camera_Power") "True"],
        .ifThen (compare (dependency "battery_voltage") "<" (dependency "shutoff_voltage"))
          [assign (var "Camera_Power") "False"],
        applyPower]]

/-- The models differ in nothing but their description. -/
def entry (descriptor : Descriptor) : CatalogEntry :=
  ⟨descriptor, .nothing, powerDependencies, fun s =>
    Instrument.build descriptor s wiring declarations powerDependencies outline⟩

end Camera

namespace DoorSwitch

def descriptor : Descriptor := ⟨"SparkFun_Door_Switch", "SparkFun", "Door Switch", "Door"⟩

def wiring : Wiring :=
  .ofWires
    [.connected "Red" (.rail .power5) "5v Power",
      .connected "Black" (.channel .control 4) "Open/Closed Status"]

def declarations : List Declaration :=
  [Variable.published "door",
    ((Variable.published "door_timer").withType .long).withUnits "sec"]

/-- After four hours a door counts as propped open on purpose and is reported closed. -/
def stale : Statement Template :=
  .ifThenElse (compare (var "door_timer") ">" "14400")
    [assign (var "door") "0"] [assign (var "door") "1"]

/-- While the circuit is closed the timer is reset; once it opens, the timer runs and is read. -/
def outline : Outline where
  tables := some
    [fiveMinutes.withItems
        [labelled (maximum "1" (var "door") "FP2" "False" "False") [var "door"]],
      statusReport.withItems
        [labelled (maximum "1" (var "door_timer") "UINT4" "False" "False") [var "door_timer"]]]
  program := some
    [.ifThenElse (call "CheckPort" [terminal "Black"])
      [assign (var "door") "0",
        assign (var "door_timer") "0",
        .line (call "Timer" ["1", "2", "3"])]
      [.line (call "Timer" ["1", "2", "0"]),
        assign (var "door_timer") (call "Timer" ["1", "2", "4"]),
        stale]]

def entry : CatalogEntry :=
  ⟨descriptor, .nothing, [], fun s => Instrument.build descriptor s wiring declarations [] outline⟩

end DoorSwitch

end Datalogger.Instruments
