import Datalogger.Instruments.Power
import Datalogger.Instruments.Site
import Datalogger.Instruments.Soil
import Datalogger.Instruments.Water
import Datalogger.Instruments.Weather
import Datalogger.Instruments.Wind

/-!
The catalog of the built-in instrument types.
-/

namespace Datalogger.Instruments

def builtinEntries : List CatalogEntry :=
  [PropellerWind.entry, UltrasonicWind.entry, Barometer.entry, HumidityProbe.entry, SoilProbe.entry,
    ChargeController.entry, Battery.entry, PanelTemperature.entry, Camera.entry Camera.movable,
    Camera.entry Camera.compact, DoorSwitch.entry, PressureProbe.entry, PrecipitationGauge.entry,
    Modem.entry, SnowDepth.entry, Pyranometer.entry]

def builtin : Catalog :=
  .ofList builtinEntries

end Datalogger.Instruments
