import Datalogger.Decimal.Reading
import Datalogger.FileTree

/-!
The compile check: a tool is given a copy of the document after its arguments, and its run is
reported. The check looks at a finished document and never changes it.
-/

namespace Datalogger

structure CheckReport where
  success : Bool
  /-- Everything that the tool printed. -/
  diagnostics : String
  deriving DecidableEq, Repr

def mentions (word : List Char) : List Char → Bool
  | [] => word = []
  | c :: cs => word.isPrefixOf (c :: cs) || mentions word cs

/-- Some failures are reported with a zero exit status, so the output counts as well. -/
def CheckReport.ofRun (exitOk : Bool) (output : String) : CheckReport :=
  ⟨exitOk && !mentions "Failed".toList output.toList, output⟩

structure ToolRun where
  exitOk : Bool
  stdout : List UInt8
  stderr : List UInt8
  deriving DecidableEq, Repr

def ToolRun.report (r : ToolRun) : CheckReport :=
  .ofRun r.exitOk (Text.Utf8.decode r.stdout ++ Text.Utf8.decode r.stderr)

namespace CompileCheck

def lastBytes (n : Nat) (bytes : List UInt8) : List UInt8 :=
  bytes.drop (bytes.length - n)

def byteCount? : List String → Option Nat
  | ["-c", n] => Decimal.readDigits n.toList
  | _ => none

def commandName (command : String) : String :=
  (["/bin/", "/usr/bin/"].findSome? fun directory =>
    if directory.toList.isPrefixOf command.toList then
      some (String.ofList (command.toList.drop directory.length))
    else none).getD command

/-- Tools that only pass on the document, or a part of it, or judge it unseen. -/
def runTool (command : String) (args : List String) (document : String) : Option ToolRun :=
  let bytes := Text.Utf8.encode document
  match commandName command with
  | "true" => some ⟨true, [], []⟩
  | "false" => some ⟨false, [], []⟩
  | "cat" => if args = [] then some ⟨true, bytes, []⟩ else none
  | "head" => (byteCount? args).map fun n => ⟨true, bytes.take n, []⟩
  | "tail" => (byteCount? args).map fun n => ⟨true, lastBytes n bytes, []⟩
  | _ => none

/-- There is no other tool. A command with a slash in it is a path, and no file can be executed. -/
def refusal (files : FileTree) (command : String) : Refusal :=
  if command.toList.contains '/' then
    match files.follow command with
    | .error r => r
    | .ok (.vacant _) => .notFound
    | .ok _ => .notPermitted
  else if command = "." || command = ".." then .notPermitted
  else if FileTree.nameLimit < FileTree.byteLength command then .nameTooLong
  else .notFound

/-- The copy of a document has a name of its own: a fixed beginning, six characters, and the extension
of written programs. -/
def copyFits (extension : String) : Bool :=
  FileTree.byteLength ("loggerforge-" ++ "......" ++ "." ++ extension) ≤ FileTree.nameLimit

def launch (files : FileTree) (command : String) (args : List String) (document : String) :
    Except Refusal ToolRun :=
  if (command :: args).any holdsZero then .error .zeroInArgument
  else
    match runTool command args document with
    | some run => .ok run
    | none => .error (refusal files command)

end CompileCheck

end Datalogger
