/-!
What can go wrong between a file and the configuration or program definition in it.
-/

namespace Datalogger

inductive ConfigError where
  | unreadable (path reason : String)
  /-- The text is not of its format, or says nothing of the expected shape. -/
  | malformed (path : String)
  | unknownFormat (path : String)
  | invalid (reason : String)
  deriving DecidableEq, Repr

namespace ConfigError

def kind : ConfigError → String
  | unreadable .. => "read_error"
  | malformed _ => "parse_error"
  | unknownFormat _ => "parse_error"
  | invalid _ => "validation_error"

def message : ConfigError → String
  | unreadable path reason => "Failed to read config file at " ++ path ++ ": " ++ reason
  | malformed path => "Failed to parse config file at " ++ path ++ ": "
  | unknownFormat path =>
    "Failed to parse config file at " ++ path ++ ": program files must end in .toml or .json"
  | invalid reason => "Configuration validation failed: " ++ reason

end ConfigError

end Datalogger
