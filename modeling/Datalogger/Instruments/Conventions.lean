import Datalogger.Catalog
import Datalogger.Outline

/-!
Conventions that instrument types share: the tables they write to, how an SDI-12 device is polled, and
what a device that switches power depends on.
-/

namespace Datalogger.Instruments

open Template

def fiveMinutes : Table Template := .named "FiveMin"

def statusReport : Table Template :=
  (Table.named "StatusReport").withInterval ⟨0, 120, .minutes, 10⟩

/-- An output whose column keeps the name of its source. -/
def unlabelled (i : Instruction Template) : TableItem Template :=
  ⟨ofInstruction i, []⟩

def labelled (i : Instruction Template) (fields : List Template) : TableItem Template :=
  ⟨ofInstruction i, fields⟩

def poll (destination line : Template) (address : Sdi12Address) (command : String) : Template :=
  call "SDI12Recorder"
    [destination, line, quotedText address.text, quotedText command, "1", "0", "-1"]

def assign (target value : Template) : Statement Template :=
  .line (target ++ " = " ++ value)

def compare (left : Template) (operator : String) (right : Template) : Template :=
  left ++ " " ++ operator ++ " " ++ right

/-- Devices that switch power shed load when the battery runs low. -/
def powerDependencies : List Dependency :=
  [⟨"battery_voltage", "Measured supply battery voltage"⟩,
    ⟨"shutoff_voltage", "Voltage below which non-essential loads are switched off"⟩]

end Datalogger.Instruments
