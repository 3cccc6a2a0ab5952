import Datalogger.Data.Dict
import Datalogger.Path
import Datalogger.Source
import Datalogger.Text.Utf8

/-!
Files in memory. A tree knows its directories and maps the paths of its files to their bytes. `read` and
`write` follow a path component by component and refuse what a file system refuses. Paths lead from the
directory of the tree; what lies outside it is empty until a file is put there.
-/

namespace Datalogger

/-- A directory as the way to it: two points first for each step up, or the root of the machine. -/
abbrev Directory := List String

structure FileTree where
  /-- By path, components joined with single slashes. -/
  files : Dict (List UInt8)
  directories : List Directory

namespace FileTree

def nameLimit : Nat := 255

def pathLimit : Nat := 4095

def byteLength (text : String) : Nat :=
  (Text.Utf8.encode text).length

def empty : FileTree := ⟨.empty, []⟩

def root : Directory := ["/"]

def origin (path : String) : Directory :=
  if path.toList.head? = some '/' then root else []

def key (components : List String) : String :=
  "/".intercalate components

/-- The directory above; the root of the machine is above itself. -/
def above (d : Directory) : Directory :=
  if d = root then root
  else if d.getLast?.all (· = "..") then d ++ [".."]
  else d.dropLast

inductive Place where
  | directory (d : Directory)
  | file (components : List String) (bytes : List UInt8)
  /-- A new name in an existing directory. -/
  | vacant (components : List String)

def child (t : FileTree) (components : List String) : Place :=
  match t.files.get? (key components) with
  | some bytes => .file components bytes
  | none => if t.directories.contains components then .directory components else .vacant components

def enter (t : FileTree) (place : Place) (component : String) : Except Refusal Place :=
  match place with
  | .directory d =>
    if component = "." then .ok place
    else if component = ".." then .ok (.directory (above d))
    else if nameLimit < byteLength component then .error .nameTooLong
    else .ok (t.child (d ++ [component]))
  | .file .. => .error .notDirectory
  | .vacant _ => .error .notFound

def walk (t : FileTree) (d : Directory) (components : List String) : Except Refusal Place :=
  components.foldlM t.enter (.directory d)

/-- No file system follows such a path. -/
def badPath (path : String) : Option Refusal :=
  if holdsZero path then some .zeroInPath
  else if pathLimit < byteLength path then some .nameTooLong
  else if path = "" then some .notFound
  else none

/-- Where a path leads. Only a directory may have a slash after it. -/
def follow (t : FileTree) (path : String) : Except Refusal Place :=
  match badPath path with
  | some refusal => .error refusal
  | none => do
    match ← t.walk (origin path) (Path.components path) with
    | .directory d => return .directory d
    | .vacant components => return .vacant components
    | .file components bytes =>
      if Path.endsInSlash path then throw .notDirectory else return .file components bytes

def read (t : FileTree) (path : String) : Source :=
  match t.follow path with
  | .error refusal => .refused refusal
  | .ok (.directory _) => .refused .isDirectory
  | .ok (.vacant _) => .refused .notFound
  | .ok (.file _ bytes) =>
    match Text.Utf8.decode? bytes with
    | some text => .text text
    | none => .refused .notText

def put (t : FileTree) (components : List String) (bytes : List UInt8) : FileTree :=
  { t with files := t.files.insert (key components) bytes }

/-- Where a file is to be written. With a slash at its end a path names a directory, whether there is
one or not. -/
def target (t : FileTree) (path : String) : Except Refusal Place :=
  match badPath path with
  | some refusal => .error refusal
  | none =>
    let components := Path.components path
    if Path.endsInSlash path then do
      t.enter (← t.walk (origin path) components.dropLast) "."
    else t.walk (origin path) components

/-- Replaces a file or makes a new one in an existing directory. -/
def write (t : FileTree) (path content : String) : Except Refusal FileTree :=
  match t.target path with
  | .error refusal => .error refusal
  | .ok (.directory _) => .error .isDirectory
  | .ok (.vacant components) | .ok (.file components _) =>
    .ok (t.put components (Text.Utf8.encode content))

/-- One step of a walk, whether or not anything is there. -/
def step (d : Directory) (component : String) : Directory :=
  if component = "." then d
  else if component = ".." then above d
  else d ++ [component]

def passed (d : Directory) : List String → List Directory
  | [] => [d]
  | component :: rest => d :: passed (step d component) rest

/-- Puts a file at a path whatever stands in the way; missing directories come into being. -/
def plant (t : FileTree) (path : String) (bytes : List UInt8) : FileTree :=
  let components := Path.components path
  let parents := passed (origin path) components.dropLast
  match parents.getLast?, components.getLast? with
  | some parent, some name =>
    { t.put (parent ++ [name]) bytes with directories := t.directories ++ parents }
  | _, _ => t

def isInside (key : String) : Bool :=
  !("/".toList.isPrefixOf key.toList || "../".toList.isPrefixOf key.toList)

/-- The files of this tree at paths where another has none, as text. -/
def addedTo (t before : FileTree) : List (String × String) :=
  (t.files.entries.filter fun e => isInside e.1 && (before.files.get? e.1).isNone).map
    fun (path, bytes) => (path, Text.Utf8.decode bytes)

end FileTree

end Datalogger
