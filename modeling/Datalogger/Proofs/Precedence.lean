import Datalogger.Configuration
import Datalogger.Proofs.Outcome

/-!
How a file and the environment make a configuration. The file is checked before the environment is looked
at. A setting that the environment gives therefore takes no part in the result once the file has passed the
check of that setting, but a file that does not pass it is refused whatever the environment gives.
-/

namespace Datalogger.Configuration

inductive Holds : Source → Configuration → Prop
  | missing (reason : String) : Holds (.absent reason) standard
  | written (content : String) (c : Configuration)
      (read : (Toml.read? content).bind (decode .toml) = some c) : Holds (.text content) c

def withCommand (c : Configuration) (command : Option String) : Configuration :=
  { c with compiler := { c.compiler with command } }

/-- The command is there but shows nothing. -/
def BlankCommand (c : Configuration) : Prop :=
  c.compiler.command.any Text.isBlankText = true

theorem validate_of_fault {c : Configuration} {reason : String} (fault : c.fault? = some reason) :
    c.validate = .error (.invalid reason) := by
  rw [validate, fault]

theorem fault?_of_interval {c : Configuration} (zero : c.defaults.scan.interval = 0) :
    c.fault? = some "defaults.scan.interval must be greater than 0" := by
  rw [fault?, if_pos zero]

theorem exists_fault_of_blank {c : Configuration} (blank : c.BlankCommand) :
    ∃ reason, c.fault? = some reason := by
  unfold fault?
  split
  · exact ⟨_, rfl⟩
  split
  · exact ⟨_, rfl⟩
  · exact ⟨_, if_pos blank⟩

theorem fault?_withInterval {c : Configuration} {n : Nat}
    (alike : c.defaults.scan.interval = 0 ↔ n = 0) : (c.withInterval n).fault? = c.fault? := by
  have same : ((c.withInterval n).defaults.scan.interval = 0) = (c.defaults.scan.interval = 0) :=
    propext alike.symm
  unfold fault?
  simp only [same]
  rfl

theorem fault?_withCommand {c : Configuration} {command : Option String}
    (alike : c.BlankCommand ↔ (c.withCommand command).BlankCommand) :
    (c.withCommand command).fault? = c.fault? := by
  have same : (c.withCommand command).compiler.command.any Text.isBlankText =
      c.compiler.command.any Text.isBlankText := Bool.eq_iff_iff.2 alike.symm
  unfold fault?
  rw [same]
  rfl

theorem overridden_of_text {c : Configuration} {env : Environment} {text : String}
    (given : env scanIntervalVariable = some text) :
    c.overridden env = (readInterval text).map (c.withCompiler env).withInterval := by
  unfold overridden override
  simp only [given]
  cases readInterval text <;> rfl

theorem overridden_congr {c d : Configuration} {env : Environment}
    (same : c.withCompiler env = d.withCompiler env) : c.overridden env = d.overridden env := by
  rw [overridden, overridden, override, override, same]

theorem withCompiler_withInterval (c : Configuration) (env : Environment) (n : Nat) :
    (c.withInterval n).withCompiler env = (c.withCompiler env).withInterval n := by
  unfold withCompiler
  cases env compilerVariable <;> rfl

theorem overridden_withInterval {c : Configuration} {env : Environment} {n : Nat}
    (given : (env scanIntervalVariable).isSome = true) :
    (c.withInterval n).overridden env = c.overridden env := by
  obtain ⟨text, given⟩ := Option.isSome_iff_exists.1 given
  rw [overridden_of_text given, overridden_of_text given, withCompiler_withInterval]
  rfl

theorem overridden_withCommand {c : Configuration} {env : Environment} {command : Option String}
    (given : (env compilerVariable).isSome = true) :
    (c.withCommand command).overridden env = c.overridden env := by
  obtain ⟨value, given⟩ := Option.isSome_iff_exists.1 given
  refine overridden_congr ?_
  rw [withCompiler, withCompiler, given]
  rfl

theorem ofSource_of_holds {source : Source} {c : Configuration} (holds : Holds source c) (path : String) :
    ofSource path source = c.validate.map fun _ => c := by
  cases holds with
  | missing reason => rfl
  | written content c read =>
    rw [ofSource, read]
    change (c.validate >>= fun _ => pure c) = _
    cases c.validate <;> rfl

theorem load_of_fault {source : Source} {c : Configuration} (holds : Holds source c) {reason : String}
    (fault : c.fault? = some reason) (path : String) (env : Environment) :
    load path source env = .error (.invalid reason) := by
  rw [load, ofSource_of_holds holds, validate_of_fault fault]
  rfl

/-- Files that pass the same checks and are overridden to the same configuration load alike. -/
theorem load_eq_of_alike {first second : Source} {c d : Configuration} {env : Environment}
    (holds : Holds first c) (holds' : Holds second d) (check : c.fault? = d.fault?)
    (result : c.overridden env = d.overridden env) (path : String) :
    load path first env = load path second env := by
  cases fault : c.fault? with
  | some reason =>
    rw [load_of_fault holds fault, load_of_fault holds' (check ▸ fault)]
  | none =>
    have passed : c.validate = .ok () := validate_eq_ok_iff.2 fault
    have passed' : d.validate = .ok () := validate_eq_ok_iff.2 (check ▸ fault)
    rw [load, load, ofSource_of_holds holds, ofSource_of_holds holds', passed, passed']
    change (c.overridden env >>= _) = (d.overridden env >>= _)
    rw [result]

theorem validate_of_load {path : String} {source : Source} {env : Environment} {c : Configuration}
    (loaded : load path source env = .ok c) : c.validate = .ok () := by
  obtain ⟨_, _, loaded⟩ := Outcome.bind_eq_ok_iff.1 loaded
  obtain ⟨d, _, loaded⟩ := Outcome.bind_eq_ok_iff.1 loaded
  obtain ⟨_, valid, same⟩ := Outcome.bind_eq_ok_iff.1 loaded
  cases same
  exact valid

/-- Files that differ in a setting which the environment gives load alike if both or neither pass the check
of that setting. A file that does not pass is refused in every environment, and what loads is valid. -/
theorem environment_precedence (path : String) (env : Environment) (first second : Source)
    (c d : Configuration) (holds : Holds first c) (holds' : Holds second d) :
    ((env scanIntervalVariable).isSome = true → (∃ n, d = c.withInterval n) →
      (c.defaults.scan.interval = 0 ↔ d.defaults.scan.interval = 0) →
        load path first env = load path second env) ∧
    ((env compilerVariable).isSome = true → (∃ command, d = c.withCommand command) →
      (c.BlankCommand ↔ d.BlankCommand) → load path first env = load path second env) ∧
    (c.defaults.scan.interval = 0 →
      load path first env = .error (.invalid "defaults.scan.interval must be greater than 0")) ∧
    (c.BlankCommand → ∃ reason, load path first env = .error (.invalid reason)) ∧
    ∀ r, load path first env = .ok r → r.validate = .ok () := by
  refine ⟨?interval, ?command, ?zero, ?blank, fun r => validate_of_load⟩
  case interval =>
    rintro given ⟨n, rfl⟩ alike
    exact load_eq_of_alike holds holds' (fault?_withInterval alike).symm
      (overridden_withInterval given).symm path
  case command =>
    rintro given ⟨command, rfl⟩ alike
    exact load_eq_of_alike holds holds' (fault?_withCommand alike).symm
      (overridden_withCommand given).symm path
  case zero => exact fun zero => load_of_fault holds (fault?_of_interval zero) path env
  case blank =>
    intro blank
    obtain ⟨reason, fault⟩ := exists_fault_of_blank blank
    exact ⟨reason, load_of_fault holds fault path env⟩

/-! Files under an environment that gives an interval and a command. -/

def quick : String := "[defaults.scan]\ninterval = 10\n"

def slow : String := "[defaults.scan]\ninterval = 600\n"

def halted : String := "[defaults.scan]\ninterval = 0\n"

def checked : String := "[compiler]\ncommand = \"crbasic\"\n"

def shell : Environment := fun name =>
  if name = scanIntervalVariable then some "15"
  else if name = compilerVariable then some "check" else none

theorem quick_holds : Holds (.text quick) (standard.withInterval 10) :=
  .written _ _ (by decide +kernel)

theorem halted_holds : Holds (.text halted) (standard.withInterval 0) :=
  .written _ _ (by decide +kernel)

theorem shell_precedence :
    load "config.toml" (.text quick) shell = load "config.toml" (.text slow) shell ∧
      load "config.toml" (.text checked) shell = load "config.toml" (.absent "") shell ∧
      load "config.toml" (.text halted) shell =
        .error (.invalid "defaults.scan.interval must be greater than 0") := by
  have slow_holds : Holds (.text slow) (standard.withInterval 600) :=
    .written _ _ (by decide +kernel)
  have checked_holds : Holds (.text checked) (standard.withCommand (some "crbasic")) :=
    .written _ _ (by decide +kernel)
  have interval := (environment_precedence "config.toml" shell _ _ _ _ quick_holds slow_holds).1
  have command := (environment_precedence "config.toml" shell _ _ _ _ checked_holds (.missing "")).2.1
  have zero := (environment_precedence "config.toml" shell _ _ _ _ halted_holds halted_holds).2.2.1
  exact ⟨interval (by decide) ⟨600, rfl⟩ (by decide),
    command (by decide) ⟨none, rfl⟩ (by unfold BlankCommand; decide +kernel), zero rfl⟩

/-- An interval of zero is not overridden. -/
theorem halted_not_overridden :
    ¬ ∀ (path : String) (env : Environment) (first second : Source) (c : Configuration) (n : Nat),
      (env scanIntervalVariable).isSome = true → Holds first c → Holds second (c.withInterval n) →
        load path first env = load path second env := by
  intro all
  have same := all "config.toml" shell _ _ _ 0 (by decide) quick_holds halted_holds
  revert same
  decide +kernel

end Datalogger.Configuration
