import Killswitch.CommandLine.Arguments
import Killswitch.CommandLine.Screen
import Killswitch.Lock.Control
import Killswitch.Policy.Build
import Killswitch.Policy.File
import Killswitch.Settings

/-!
# Commands

The four commands: `enable` puts the lock on, `disable` takes it off, `print` writes the rules that
`enable` would load, and `status` shows what is known about the filter.

**Options.** What the policy file asks for comes first, and what the command line asks for is added
to it. The baseline is the one of the command line, or else of the policy file, or else of the
settings.

**Contents.**
* `Context`: what a command knows from the words in front of it and from the environment;
* `fileOptions`: the options of the policy file;
* `Command`, `Command.run`: the commands.
-/

namespace Killswitch
namespace CommandLine

/-- Where the remarks of this module come from. -/
def origin : String :=
  "netlock.cli.common"

/-- The exit code of a run that failed. -/
def failureCode : Nat :=
  1

/-- What is known when a command starts. -/
structure Context where
  settings : Settings
  policyFile : Option String

/-! ## The policy file -/

/-- The policy file with its spelling: that of the command line, unless it is empty, or else that of the
settings. -/
def Context.policyPath (c : Context) : Option (Path × String) :=
  let configured := c.settings.policyFile.map (fun path => (path, path.toString))
  match c.policyFile with
  | some given => if given = "" then configured else some (Path.ofString given, given)
  | none => configured

/-- Whether a failure is reported as one of the policy file. -/
def isAboutFile : Failure → Bool
  | .system _ => true
  | .undecodable _ => true
  | .encoding _ => true
  | .nullInPath => true
  | .notMapping => true
  | .notList _ => true
  | .notFlag _ _ => true
  | .document f => f.isBadValue
  | _ => false

/-- A failure as it is reported after a policy file was read. -/
def aboutFile (spelling : String) (f : Failure) : Failure :=
  if isAboutFile f then .diagnostic ⟨.general, "policy " ++ spelling, f.message⟩ else f

def readPolicy (path : Path) (spelling : String) : Action Options := do
  let options ←
    Action.ofOutcome ((PolicyFile.read (← Action.host) path).mapError (aboutFile spelling))
  Action.remark .debug origin ("Loaded policy options from " ++ spelling)
  return options

/-- The options of the policy file, with the baseline of the settings. -/
def fileOptions (c : Context) : Action Options := do
  let options ←
    match c.policyPath with
    | some (path, spelling) => readPolicy path spelling
    | none => pure Options.empty
  return { options with baseline := orIfEmpty options.baseline c.settings.baseline }

/-- The policy that the policy file and the command line ask for. -/
def policyOf (c : Context) (f : Flags) : Action Policy := do
  Policy.build ((← fileOptions c).merge (.ofFlags f))

/-! ## Commands -/

inductive Command where
  | enable
  | disable
  | print
  | status
  deriving DecidableEq, Repr

def Command.name : Command → String
  | .enable => "enable"
  | .disable => "disable"
  | .print => "print"
  | .status => "status"

/-- The command that a word names. -/
def Command.ofName? (name : String) : Option Command :=
  [Command.enable, .disable, .print, .status].find? (fun c => c.name == name)

/-- What is written when a command has changed the lock. -/
def doneMark : String :=
  "OK\n"

def enable (c : Context) (f : Flags) : Action Nat := do
  let policy ← policyOf c f
  let _ ← Lock.enable c.settings.binary policy
  Screen.display ("Lock [green]enabled[/green]: " ++ toString policy.destinations.length
    ++ " destination(s), skipping "
    ++ Text.joinWith ", " (Ruleset.loopback :: policy.interfaces))
  Screen.printResult doneMark
  return 0

/-- The policy that the lock is taken off with. -/
def disablingPolicy (o : Options) (f : Flags) : Policy :=
  .of .none [] [] (orIfEmpty (f.baseline.getD "") o.baseline)

def disable (c : Context) (f : Flags) : Action Nat := do
  let policy := disablingPolicy (← fileOptions c) f
  let _ ← Lock.disable c.settings.binary policy
  Screen.display ("Lock [yellow]disabled[/yellow]: restored " ++ policy.baseline)
  Screen.printResult doneMark
  return 0

/-- Writes the rules that would be loaded. -/
def print (c : Context) (f : Flags) : Action Nat := do
  let policy ← policyOf c f
  Screen.printResult policy.ruleset
  return 0

/-- Shows what is known about the filter. -/
def status (c : Context) : Action Nat := do
  let binary := c.settings.binary
  let state ← Lock.probe binary
  let absent := state = .disabledOrAbsent
  Screen.table [
    ("FIREWALL", if absent then "[red]DISABLED[/red]" else "[green]ENABLED[/green]"),
    ("ENGINE", binary),
    ("LOCK", state.name)]
  return if absent then failureCode else 0

/-- Shows a diagnostic, with what the engine has written. -/
def report (d : Diagnostic) : Action Unit := do
  Screen.display ("[red]Error[/red] (" ++ Markup.escape d.step ++ "): " ++ Markup.escape d.text)
  match d.category with
  | .engine output _ =>
      let output := Text.trimEnd output.toList
      if !output.isEmpty then Screen.display (Markup.escape (String.ofList output))
  | _ => pure ()

/-- Runs a command. A diagnostic is shown; every other failure is passed on. -/
def Command.run (command : Command) (c : Context) (f : Flags) : Action Nat := do
  let body :=
    match command with
    | .enable => CommandLine.enable c f
    | .disable => CommandLine.disable c f
    | .print => CommandLine.print c f
    | .status => CommandLine.status c
  match ← Action.attempt body with
  | .ok code => return code
  | .error (.diagnostic d) =>
      report d
      return failureCode
  | .error f => throw f

end CommandLine
end Killswitch
