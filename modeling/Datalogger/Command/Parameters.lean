import Datalogger.Command.Basic
import Datalogger.Data.JsonReader
import Datalogger.Settings

/-!
Settings from the command line. A parameter is a key, an equals sign and a value; a value that is JSON
text stands for that JSON value, and every other one for itself.
-/

namespace Datalogger

open Text (trim)

namespace Parameter

def readValue (text : String) : Json :=
  match Json.read? (trim text) with
  | some v => v.normal
  | none => .str (trim text)

/-- The key before the first equals sign and the value after it, without the blanks around them. -/
def read (parameter : String) : Except CommandError (String × Json) :=
  let key := parameter.toList.takeWhile (· ≠ '=')
  match parameter.toList.dropWhile (· ≠ '=') with
  | [] => .error (.noValue parameter)
  | _ :: value => .ok (trim (String.ofList key), readValue (String.ofList value))

end Parameter

/-- The address is checked before the parameters; of parameters with the same key the last counts. -/
def InstrumentSettings.ofParameters (address : Option String) (elevation : Option Int)
    (params : List String) : Except CommandError InstrumentSettings := do
  let address ← (address.mapM Sdi12Address.read).mapError .assembly
  let params ← params.mapM Parameter.read
  return { InstrumentSettings.standard with address, elevation, params := .ofList params }

end Datalogger
