import Datalogger.Instrument
import Datalogger.Statement

/-!
Outlines: contributions written down before the names in them are known. A template is text with gaps
for the variables, registers, terminals and dependencies of one instance; filling an outline turns its
templates into text. The type of an instrument is described by an outline once, for all its instances.
-/

namespace Datalogger

open Text (joinLines)

inductive Piece where
  | text (s : String)
  /-- The effective name of an own variable, by its declared name. -/
  | var (name : String)
  /-- The name of an own register. -/
  | register (name : String)
  /-- The code of the terminal that a wire goes to. -/
  | terminal (role : String)
  | dependency (name : String)
  deriving DecidableEq, Repr

abbrev Template := List Piece

namespace Template

instance : Coe String Template := ⟨fun s => [.text s]⟩

def var (name : String) : Template := [.var name]

def register (name : String) : Template := [.register name]

def terminal (role : String) : Template := [.terminal role]

def dependency (name : String) : Template := [.dependency name]

def ofInstruction (i : Instruction Template) : Template :=
  .text (i.name ++ "(") :: [Piece.text ","].intercalate i.args ++ [.text ")"]

def call (name : String) (args : List Template) : Template :=
  ofInstruction ⟨name, args⟩

def quoted (t : Template) : Template :=
  .text "\"" :: t ++ [.text "\""]

def quotedText (s : String) : Template :=
  [.text (Instruction.quoted s)]

end Template

namespace Piece

def fill (p : Parts) (d : Deps) : Piece → Except Error String
  | text s => .ok s
  | var name => p.var name
  | register name => (p.register name).map Register.name
  | terminal role => (p.terminal role).map Terminal.code
  | dependency name => d.name name

end Piece

/-- The pieces one after the other; the first that cannot be filled is the error. -/
def Template.fill (p : Parts) (d : Deps) : Template → Except Error String
  | [] => .ok ""
  | piece :: rest => do
    let front ← piece.fill p d
    return front ++ (← Template.fill p d rest)

structure Outline where
  tables : Option (List (Table Template)) := none
  preScan : Option (List (Statement Template)) := none
  program : Option (List (Statement Template)) := none
  postScan : Option (List (Statement Template)) := none
  slowSequence : Option (SlowSequence (Statement Template)) := none
  functions : Option (List Template) := none

def fillLogic (p : Parts) (d : Deps) (body : List (Statement Template)) : Except Error String :=
  (body.mapM (Statement.mapM (Template.fill p d))).map fun s => joinLines (Statement.texts s)

def fillSequence (p : Parts) (d : Deps) (s : SlowSequence (Statement Template)) :
    Except Error (SlowSequence String) :=
  (s.lines.mapM (Statement.mapM (Template.fill p d))).map fun lines =>
    ⟨s.id, s.scan, Statement.texts lines⟩

def Instrument.ofOutline (p : Parts) (o : Outline) : Instrument where
  parts := p
  tables d := o.tables.mapM (List.mapM (Table.mapM (Template.fill p d)))
  preScan d := o.preScan.mapM (fillLogic p d)
  program d := o.program.mapM (fillLogic p d)
  postScan d := o.postScan.mapM (fillLogic p d)
  slowSequence d := o.slowSequence.mapM (fillSequence p d)
  functions d := o.functions.mapM (List.mapM (Template.fill p d))

def Instrument.build (descriptor : Descriptor) (settings : InstrumentSettings) (wiring : Wiring)
    (declarations : List Declaration) (dependencies : List Dependency) (outline : Outline) :
    Except Error Instrument :=
  (Parts.assemble descriptor settings wiring declarations dependencies).map (.ofOutline · outline)

end Datalogger
