import Datalogger.CalendarDate
import Datalogger.Cadence
import Datalogger.Dependency
import Datalogger.Settings

/-!
What a program is made from: options, and an ordered list of instruments with their settings and the
sources of their dependencies.
-/

namespace Datalogger

inductive ExecutionMode where
  | sequential
  | pipeline
  deriving DecidableEq, Repr

def ExecutionMode.directive : ExecutionMode → String
  | sequential => "SequentialMode"
  | pipeline => "PipelineMode"

structure ProgramOptions where
  mode : ExecutionMode
  /-- Values survive a reset. -/
  preserveVariables : Bool
  scan : Scan
  /-- The date in the header; given from outside, so that a request has one document. -/
  created : CalendarDate
  station : Option String
  deriving DecidableEq, Repr

structure InstrumentRequest where
  typeId : String
  settings : InstrumentSettings
  dependencies : Dict DependencyTarget

structure ProgramRequest where
  name : String
  options : ProgramOptions
  instruments : List InstrumentRequest

end Datalogger
