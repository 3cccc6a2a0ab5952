import Datalogger.Command.Basic
import Datalogger.Decimal.Reading

/-!
The command line. Its words are read level by level: options of the program, a subcommand with its own
options and operands, and for the configuration an action. Each word is judged where it stands, so
asking for help counts only if nothing before it is wrong. `read` yields the command, or that help or the
version was asked for, or that the words make no command.
-/

namespace Datalogger.CommandLine

inductive Reading where
  | command (c : Command)
  | help
  | version
  | misuse
  deriving DecidableEq, Repr

def path? (text : String) : Option String :=
  if text = "" then none else some text

def int32? (text : String) : Option Int :=
  Decimal.readInt Range.leastInt32 Range.greatestInt32 text.toList

inductive Form where
  | text
  | path
  | date
  | int32
  deriving DecidableEq, Repr

def Form.accepts : Form → String → Bool
  | text, _ => true
  | path, value => (path? value).isSome
  | date, value => (CalendarDate.read? value).isSome
  | int32, value => (int32? value).isSome

structure Switch where
  name : String
  letter : Option Char
  value : Option Form
  /-- The value may look like an option. -/
  anyValue : Bool
  repeatable : Bool
  deriving DecidableEq, Repr

structure Level where
  switches : List Switch
  operands : List Form
  /-- The first operand is the name of a level below. -/
  nested : Bool
  showsVersion : Bool

structure Words where
  given : List (String × String)
  operands : List String
  deriving DecidableEq, Repr

namespace Words

def empty : Words := ⟨[], []⟩

def has (w : Words) (name : String) : Bool :=
  w.given.any (·.1 = name)

def value? (w : Words) (name : String) : Option String :=
  w.given.lookup name

def values (w : Words) (name : String) : List String :=
  (w.given.filter (·.1 = name)).map (·.2)

/-- Only a repeatable switch may come again. -/
def give (w : Words) (s : Switch) (value : String) : Except Reading Words :=
  if w.has s.name && !s.repeatable then .error .misuse
  else if s.value.any (!·.accepts value) then .error .misuse
  else .ok { w with given := w.given ++ [(s.name, value)] }

/-- There are no more operands than a level has forms for. -/
def take (l : Level) (w : Words) (operand : String) : Except Reading Words :=
  match l.operands[w.operands.length]? with
  | none => .error .misuse
  | some form =>
    if form.accepts operand then .ok { w with operands := w.operands ++ [operand] }
    else .error .misuse

end Words

def looksLikeOption (word : String) : Bool :=
  word.toList.head? = some '-' && word ≠ "-"

structure State where
  words : Words
  pending : Option Switch

def readSwitch (w : Words) (s : Switch) (attached : Option String) : Except Reading State :=
  match s.value.isSome, attached with
  | true, some value => (w.give s value).map (⟨·, none⟩)
  | true, none => if w.has s.name && !s.repeatable then .error .misuse else .ok ⟨w, some s⟩
  | false, some _ => .error .misuse
  | false, none => (w.give s "").map (⟨·, none⟩)

def readLong (l : Level) (w : Words) (cs : List Char) : Except Reading State :=
  let name := String.ofList (cs.takeWhile (· ≠ '='))
  let attached :=
    match cs.dropWhile (· ≠ '=') with
    | [] => none
    | _ :: value => some (String.ofList value)
  match l.switches.find? (·.name = name) with
  | some s => readSwitch w s attached
  | none =>
    if attached.isSome then .error .misuse
    else if name = "help" then .error .help
    else if name = "version" && l.showsVersion then .error .version
    else .error .misuse

def dropEquals : List Char → List Char
  | '=' :: cs => cs
  | cs => cs

/-- Letters after one hyphen. The first one that takes a value takes the remaining letters for it. -/
def readLetters (l : Level) : Words → List Char → Except Reading State
  | w, [] => .ok ⟨w, none⟩
  | w, c :: cs =>
    match l.switches.find? (·.letter = some c) with
    | some s =>
      if s.value.isSome then
        readSwitch w s (if cs = [] then none else some (String.ofList (dropEquals cs)))
      else
        match w.give s "" with
        | .error r => .error r
        | .ok w => readLetters l w cs
    | none =>
      if c = 'h' then .error .help
      else if c = 'V' && l.showsVersion then .error .version
      else .error .misuse

def readOption (l : Level) (w : Words) (word : String) : Except Reading State :=
  match word.toList with
  | '-' :: '-' :: cs => readLong l w cs
  | _ :: cs => readLetters l w cs
  | [] => .error .misuse

/-- The words of a level, and those that are left for a level below. After two hyphens alone there are
only operands. -/
def scan (l : Level) : State → List String → Except Reading (Words × List String)
  | st, [] => if st.pending.isSome then .error .misuse else .ok (st.words, [])
  | ⟨w, some s⟩, word :: rest =>
    if looksLikeOption word && !s.anyValue then .error .misuse
    else
      match w.give s word with
      | .error r => .error r
      | .ok w => scan l ⟨w, none⟩ rest
  | ⟨w, none⟩, word :: rest =>
    if word = "--" then
      if l.nested then .error .misuse
      else (rest.foldlM (Words.take l) w).map (·, [])
    else if looksLikeOption word then
      match readOption l w word with
      | .error r => .error r
      | .ok st => scan l st rest
    else if l.nested then .ok (w, word :: rest)
    else
      match w.take l word with
      | .error r => .error r
      | .ok w => scan l ⟨w, none⟩ rest

def verbose : Switch := ⟨"verbose", some 'v', none, false, false⟩

def flag (name : String) : Switch := ⟨name, none, none, false, false⟩

def option (name : String) (form : Form) : Switch := ⟨name, none, some form, false, false⟩

def leaf (switches : List Switch) (operands : List Form) : Level :=
  ⟨verbose :: switches, operands, false, false⟩

def program : Level := ⟨[verbose], [], true, true⟩

def configuration : Level := ⟨[verbose], [], true, false⟩

def build : Level :=
  leaf [{ option "output" .path with letter := some 'o' }, option "date" .date, flag "check"] [.path]

def instruments : Level := leaf [flag "json"] []

def describe : Level :=
  leaf [option "sdi12" .text, { option "elevation" .int32 with anyValue := true },
    { option "param" .text with repeatable := true }] [.text]

def check : Level := leaf [] [.path]

def action : Level := leaf [] []

/-- A value that may be left out but must be readable when it is given. -/
def readable {α : Type} (read : String → Option α) : Option String → Option (Option α)
  | none => some none
  | some text => (read text).map some

def buildCommand (w : Words) : Option Command := do
  let [file] := w.operands | none
  let file ← path? file
  let output ← readable path? (w.value? "output")
  let date ← readable CalendarDate.read? (w.value? "date")
  return .build file output date (w.has "check")

def instrumentsCommand (w : Words) : Option Command := do
  let [] := w.operands | none
  return .instruments (w.has "json")

def describeCommand (w : Words) : Option Command := do
  let [typeId] := w.operands | none
  let elevation ← readable int32? (w.value? "elevation")
  return .describe typeId (w.value? "sdi12") elevation (w.values "param")

def checkCommand (w : Words) : Option Command := do
  let [file] := w.operands | none
  return .check (← path? file)

def configCommand (action : ConfigAction) (w : Words) : Option Command := do
  let [] := w.operands | none
  return .config action

abbrev Choices := List (String × Level × (Words → Option Command))

def actions : Choices :=
  [("validate", action, configCommand .validate), ("show", action, configCommand .show),
    ("path", action, configCommand .path)]

def subcommands : Choices :=
  [("build", build, buildCommand), ("instruments", instruments, instrumentsCommand),
    ("describe", describe, describeCommand), ("check", check, checkCommand)]

def isTopic (choices : Choices) (name : String) : Bool :=
  name = "help" || (choices.lookup name).isSome

/-- Help on one thing; nothing is below what has no choices. -/
def readTopic (choices : Choices) : List String → Reading
  | [] => .help
  | [name] => if isTopic choices name then .help else .misuse
  | _ => .misuse

def readLeaf (choices : Choices) (name : String) (rest : List String) : Reading :=
  match choices.lookup name with
  | none => .misuse
  | some (level, command?) =>
    match scan level ⟨.empty, none⟩ rest with
    | .error r => r
    | .ok (words, _) => (command? words).elim .misuse .command

def readAction (rest : List String) : Reading :=
  match scan configuration ⟨.empty, none⟩ rest with
  | .error r => r
  | .ok (_, []) => .misuse
  | .ok (_, name :: rest) =>
    if name = "help" then readTopic actions rest else readLeaf actions name rest

def read (words : List String) : Reading :=
  match scan program ⟨.empty, none⟩ words with
  | .error r => r
  | .ok (_, []) => .misuse
  | .ok (_, name :: rest) =>
    if name = "config" then readAction rest
    else if name = "help" then
      match rest with
      | "config" :: topic => readTopic actions topic
      | topic => readTopic subcommands topic
    else readLeaf subcommands name rest

end Datalogger.CommandLine
