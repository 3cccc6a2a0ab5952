import Datalogger.CommandLine.Execution
import Datalogger.FileTree
import Std.Time.Zoned

/-!
The program: a command line against the files and the environment of a machine.
-/

namespace Datalogger

namespace Machine

def today : IO CalendarDate := do
  let now ← Std.Time.PlainDate.now
  return ⟨now.year.toInt, now.month.toNat, now.day.toNat⟩

/-- The refusal behind an error of the machine, which tells a directory by its number. -/
def refusal? : IO.Error → Option Refusal
  | .noFileOrDirectory .. => some .notFound
  | .permissionDenied .. => some .notPermitted
  | .inappropriateType _ 21 _ => some .isDirectory
  | .inappropriateType .. => some .notDirectory
  | .invalidArgument .. => some .nameTooLong
  | _ => none

def readFile (path : String) : IO Source := do
  match FileTree.badPath path with
  | some refusal => return .refused refusal
  | none =>
    try
      match Text.Utf8.decode? (← IO.FS.readBinFile path).data.toList with
      | some content => return .text content
      | none => return .refused .notText
    catch e =>
      match refusal? e with
      | some refusal => return .refused refusal
      | none => return .unreadable e.toString

def writeFile (path content : String) : IO (Except String Unit) := do
  match FileTree.badPath path with
  | some refusal => return .error refusal.message
  | none =>
    try
      IO.FS.writeFile path content
      return .ok ()
    catch e => return .error (((refusal? e).map Refusal.message).getD e.toString)

def launch (command : String) (args : List String) (document : String) :
    Except String ToolRun :=
  (CompileCheck.launch .empty command args document).mapError Refusal.message

def host : IO (Host IO) := do
  let compiler ← IO.getEnv compilerVariable
  let interval ← IO.getEnv scanIntervalVariable
  return {
    environment := fun name =>
      if name = compilerVariable then compiler
      else if name = scanIntervalVariable then interval
      else none
    home := (← IO.getEnv "HOME").getD "/tmp"
    today, readFile, writeFile
    launch := fun command args document => pure (launch command args document)
    print := IO.print
    printError := IO.eprint }

end Machine

end Datalogger

open Datalogger in
def main (args : List String) : IO UInt32 := do
  return (← CommandLine.execute (← Machine.host) args).toUInt32
