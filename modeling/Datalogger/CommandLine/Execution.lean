import Datalogger.Command.Run
import Datalogger.CommandLine

/-!
Executing a command line: what it asks for is done, and the exit status tells how it went. The status
is 0 for success, 1 for a command that failed and 2 for words that make no command.
-/

namespace Datalogger.CommandLine

def usage : String :=
  "Usage: loggerforge [--verbose] build <FILE> [--output <FILE>] [--date <DATE>] [--check]\n" ++
  "       loggerforge [--verbose] instruments [--json]\n" ++
  "       loggerforge [--verbose] describe <TYPE> [--sdi12 <ADDRESS>] [--elevation <CM>]\n" ++
  "                   [--param <KEY=VALUE>]...\n" ++
  "       loggerforge [--verbose] check <FILE>\n" ++
  "       loggerforge [--verbose] config <validate|show|path>\n"

def versionLine : String := "loggerforge 0.1.0"

def execute {m : Type → Type} [Monad m] (h : Host m) (words : List String) : m Nat := do
  match read words with
  | .help => h.print usage; return 0
  | .version => h.printLine versionLine; return 0
  | .misuse => h.printError usage; return 2
  | .command c =>
    match ← (c.run h).run with
    | .ok () => return 0
    | .error e => h.printError ("Error: " ++ e.message ++ "\n"); return 1

end Datalogger.CommandLine
