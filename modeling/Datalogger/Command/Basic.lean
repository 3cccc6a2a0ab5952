import Datalogger.CalendarDate
import Datalogger.ConfigError
import Datalogger.Error

/-!
Commands of the command line, and how they fail.
-/

namespace Datalogger

inductive ConfigAction where
  | validate
  | show
  | path
  deriving DecidableEq, Repr

inductive Command where
  /-- Assembles a program definition; without an output path the document is printed. -/
  | build (file : String) (output : Option String) (date : Option CalendarDate) (check : Bool)
  /-- Lists the catalog. -/
  | instruments (json : Bool)
  /-- Shows what one instrument contributes. -/
  | describe (typeId : String) (address : Option String) (elevation : Option Int)
      (params : List String)
  /-- Runs the compile check on a file. -/
  | check (file : String)
  | config (action : ConfigAction)
  deriving DecidableEq, Repr

inductive CommandError where
  | assembly (e : Error)
  | configuration (e : ConfigError)
  /-- The configuration cannot be shown. -/
  | noConfiguration (e : ConfigError)
  | notRead (path reason : String)
  | notWritten (path reason : String)
  | noCompiler
  /-- There is no copy of the document for the compiler. -/
  | notCopied (reason : String)
  | notLaunched (command reason : String)
  | checkFailed (command : String)
  | noValue (parameter : String)
  deriving DecidableEq, Repr

namespace CommandError

def kind : CommandError → String
  | assembly e => e.kind
  | configuration e => e.kind
  | notCopied _ => "check_error"
  | notLaunched .. => "check_error"
  | _ => "cli_error"

def message : CommandError → String
  | assembly e => e.message
  | configuration e => e.message
  | noConfiguration e => "Failed to load config: " ++ e.message
  | notRead path reason => "Failed to read " ++ path ++ ": " ++ reason
  | notWritten path reason => "Failed to write " ++ path ++ ": " ++ reason
  | noCompiler => "No compiler configured (set compiler.command or LOGGERFORGE_COMPILER)"
  | notCopied reason => "I/O error: " ++ reason
  | notLaunched command reason => "Failed to launch '" ++ command ++ "': " ++ reason
  | checkFailed command => "Compile check with '" ++ command ++ "' failed"
  | noValue parameter => "Expected KEY=VALUE, got '" ++ parameter ++ "'"

end CommandError

end Datalogger
