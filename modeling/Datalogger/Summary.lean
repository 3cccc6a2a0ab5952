import Datalogger.Instrument

/-!
The summary of one instrument on its own: wiring defaults, declarations and every facet it provides,
with dependencies shown by name in angle brackets.
-/

namespace Datalogger

open Text (joinLines)

namespace Instrument

def titled (title body : String) : String :=
  title ++ ":\n" ++ body

def block? (title : String) (body : Option String) : List String :=
  (body.map (titled title)).toList

def dependencyLine (d : Dependency) : String :=
  "<" ++ d.name ++ ">: " ++ d.description

def summary (i : Instrument) : Except Error String := do
  let d := Deps.placeholders i.id
  let wiring :=
    if i.wiring.isEmpty then [] else [titled "Wiring Defaults" i.wiring.diagram]
  let dependencies :=
    if i.dependencies = [] then []
    else [titled "Dependencies" (joinLines (i.dependencies.map dependencyLine))]
  let tables ← i.tables d
  let functions ← i.functions d
  let preScan ← i.preScan d
  let program ← i.program d
  let postScan ← i.postScan d
  let slowSequence ← i.slowSequence d
  return "\n\n".intercalate
    ([i.descriptor.text] ++ wiring ++ [titled "Variables" (joinLines i.vars.lines)] ++
      dependencies ++
      block? "Defined Tables" (tables.map fun ts => "\n\n".intercalate (ts.map Table.text)) ++
      block? "User-Defined Functions" (functions.map ("\n\n".intercalate ·)) ++
      block? "Pre-Scan Logic" preScan ++
      block? "Program Logic" program ++
      block? "Post Table Call Logic" postScan ++
      block? "Slow Sequence" (slowSequence.map SlowSequence.text))

end Instrument

end Datalogger
