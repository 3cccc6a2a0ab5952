import Datalogger.Assembly
import Datalogger.Command.Host
import Datalogger.Command.Listing
import Datalogger.Command.Parameters
import Datalogger.Definition
import Datalogger.Instruments.Builtin
import Datalogger.Summary

/-!
Running a command. A build reads the configuration, then the definition, and writes or prints the
document before it is checked; a failure ends the run, and what was written by then stays.
-/

namespace Datalogger

open Text (trimEnd isBlankText joinLines)

namespace Command

variable {m : Type → Type} [Monad m]

abbrev Run (m : Type → Type) := ExceptT CommandError m

def ofResult {α ε : Type} (cause : ε → CommandError) (r : Except ε α) : Run m α :=
  ExceptT.mk (pure (r.mapError cause))

def configuration? (h : Host m) : Run m (Except ConfigError Configuration) := do
  let source ← h.readFile h.configurationPath
  return Configuration.load h.configurationPath source h.environment

def configuration (h : Host m) : Run m Configuration := do
  ofResult .configuration (← configuration? h)

/-- Shows what the tool printed, and fails unless it succeeded. -/
def judge (h : Host m) (command : String) (report : CheckReport) : Run m Unit := do
  if !isBlankText report.diagnostics then
    h.printError (trimEnd report.diagnostics ++ "\n")
  if !report.success then
    throw (.checkFailed command)

def checkDocument (h : Host m) (c : Configuration) (document : String) : Run m Unit := do
  match c.compiler.command with
  | none => throw .noCompiler
  | some command =>
    if !CompileCheck.copyFits c.extension then
      throw (.notCopied Refusal.nameTooLong.message)
    let run ← ofResult (.notLaunched command) (← h.launch command c.compiler.args document)
    judge h command run.report

def runCheck (h : Host m) (file : String) : Run m Unit := do
  let config ← configuration h
  let document ← ofResult (.notRead file) (← h.readFile file).text?
  checkDocument h config document

/-- Writes a document to a path, which gets the configured extension unless it has one. -/
def deliver (h : Host m) (extension : String) (document : String) : Option String → Run m Unit
  | none => h.print document
  | some path => do
    let path := Path.withDefaultExtension path extension
    ofResult (.notWritten path) (← h.writeFile path document)

def runBuild (h : Host m) (file : String) (output : Option String) (date : Option CalendarDate)
    (checked : Bool) : Run m Unit := do
  let config ← configuration h
  let definition ← ofResult .configuration (ProgramDefinition.ofSource file (← h.readFile file))
  let created ← match date with
    | some d => pure d
    | none => h.today
  let request := definition.request created config.defaults config.stationLine
  let document ← ofResult .assembly (assemble Instruments.builtin request)
  deliver h config.extension document.text output
  if checked then
    checkDocument h config document.text

def listCatalog (h : Host m) (json : Bool) : Run m Unit :=
  h.printLine (if json then Instruments.builtin.encode.pretty else Instruments.builtin.listing)

def showInstrument (h : Host m) (typeId : String) (address : Option String) (elevation : Option Int)
    (params : List String) : Run m Unit := do
  let settings ← ofResult id (InstrumentSettings.ofParameters address elevation params)
  let instrument ← ofResult .assembly (Instruments.builtin.instantiate typeId settings)
  h.printLine (← ofResult .assembly instrument.summary)

def configurationLines (c : Configuration) : List String :=
  (if c.compiler.command.isNone then
    ["   warning: no compiler configured; `check` and `build --check` are unavailable"] else []) ++
  ["",
    "   Station:   " ++ c.stationLine.getD "-",
    "   Mode:      " ++ c.defaults.mode.directive,
    "   Scan:      " ++ c.defaults.scan.text,
    "   Preserve:  " ++ (if c.defaults.preserveVariables then "true" else "false"),
    "   Compiler:  " ++ c.compiler.command.getD "-",
    "   Extension: " ++ c.extension]

def validateConfiguration (h : Host m) : Run m Unit := do
  h.printLine "Validating configuration..."
  match ← configuration? h with
  | .ok c => h.printLine (joinLines ("   Config parsed successfully" :: configurationLines c))
  | .error e =>
    h.printLine ("   Config error: " ++ e.message)
    throw (.configuration e)

def showConfiguration (h : Host m) : Run m Unit := do
  let config ← ofResult .noConfiguration (← configuration? h)
  h.printLine config.toml

def run (h : Host m) : Command → Run m Unit
  | build file output date checked => runBuild h file output date checked
  | instruments json => listCatalog h json
  | describe typeId address elevation params => showInstrument h typeId address elevation params
  | check file => runCheck h file
  | config .validate => validateConfiguration h
  | config .show => showConfiguration h
  | config .path => h.printLine h.configurationPath

end Command

end Datalogger
