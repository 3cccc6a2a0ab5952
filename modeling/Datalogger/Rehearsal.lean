import Datalogger.CommandLine.Execution
import Datalogger.FileTree

/-!
Rehearsals: a command on files in memory. What it prints and writes is kept, so the effect of a command
is a function of the files and the environment that it is given.
-/

namespace Datalogger

structure Rehearsal where
  files : FileTree
  stdout : String
  stderr : String

namespace Rehearsal

def start (files : FileTree) : Rehearsal := ⟨files, "", ""⟩

def writeFile (path content : String) (r : Rehearsal) : Except String Unit × Rehearsal :=
  match r.files.write path content with
  | .ok files => (.ok (), { r with files })
  | .error refusal => (.error refusal.message, r)

def launch (command : String) (args : List String) (document : String) (r : Rehearsal) :
    Except String ToolRun × Rehearsal :=
  ((CompileCheck.launch r.files command args document).mapError Refusal.message, r)

def host (environment : String → Option String) (home : String) (today : CalendarDate) :
    Host (StateM Rehearsal) where
  environment := environment
  home := home
  today := pure today
  readFile path := fun r => (r.files.read path, r)
  writeFile path content := writeFile path content
  launch command args document := launch command args document
  print text := modify fun r => { r with stdout := r.stdout ++ text }
  printError text := modify fun r => { r with stderr := r.stderr ++ text }

end Rehearsal

/-- How a command ends, and what it leaves behind. -/
def Command.rehearse (c : Command) (files : FileTree) (environment : String → Option String)
    (home : String) (today : CalendarDate) : Except CommandError Unit × Rehearsal :=
  (c.run (Rehearsal.host environment home today)).run (.start files)

/-- The exit status of a command line, and what it leaves behind. -/
def CommandLine.rehearse (words : List String) (files : FileTree)
    (environment : String → Option String) (home : String) (today : CalendarDate) :
    Nat × Rehearsal :=
  (execute (Rehearsal.host environment home today) words).run (.start files)

end Datalogger
