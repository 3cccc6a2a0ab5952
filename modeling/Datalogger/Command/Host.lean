import Datalogger.Command.Basic
import Datalogger.CompileCheck
import Datalogger.Source

/-!
The host of a command: whatever it takes from outside and gives back. A command is the same for every
host, so what it does on files in memory is what it does on a disk.
-/

namespace Datalogger

structure Host (m : Type → Type) where
  environment : String → Option String
  /-- The directory that the configuration is kept in. -/
  home : String
  today : m CalendarDate
  readFile : String → m Source
  writeFile : (path content : String) → m (Except String Unit)
  /-- Runs a tool on a copy of a document. -/
  launch : (command : String) → (args : List String) → (document : String) → m (Except String ToolRun)
  print : String → m Unit
  printError : String → m Unit

namespace Host

variable {m : Type → Type}

def configurationPath (h : Host m) : String :=
  h.home ++ "/.loggerforge/config.toml"

def printLine (h : Host m) (line : String) : m Unit :=
  h.print (line ++ "\n")

end Host

end Datalogger
