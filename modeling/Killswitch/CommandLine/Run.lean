import Killswitch.CommandLine.Command
import Killswitch.Lock.Session

/-!
# Runs of the command line

A command line is the words for the whole program, a command, and the words for the command. What is
wrong with the words of a part is found before that part does anything.

**Contents.**
* `GlobalKey`, `Key`: the options of the program and of its commands;
* `Refusal`: why the words of a part do not lead to an action;
* `Request`: what the words for the whole program ask for;
* `run`: the action of a command line, which gives the exit code;
* `Report`, `execute`: what can be seen of a run.
-/

namespace Killswitch
namespace CommandLine

/-! ## Options -/

/-- The options of the whole program. -/
inductive GlobalKey where
  | policy
  | verbose
  | version
  | help
  deriving DecidableEq, Repr

/-- The options of the commands. -/
inductive Key where
  | address
  | host
  | file
  | interface
  | allowIncoming
  | allowOutgoing
  | allowPrivateNetwork
  | allowIcmp
  | useRouting
  | baseline
  | help
  deriving DecidableEq, Repr

def globalForms : List (Form GlobalKey) := [
  ⟨.policy, some "--policy", some 'p', true⟩,
  ⟨.verbose, some "--verbose", some 'v', false⟩,
  ⟨.version, some "--version", none, false⟩,
  ⟨.help, some "--help", none, false⟩]

def helpForm : Form Key :=
  ⟨.help, some "--help", none, false⟩

def baselineForm : Form Key :=
  ⟨.baseline, some "--default-conf", none, true⟩

def lockForms : List (Form Key) := [
  ⟨.address, some "--ip", none, true⟩,
  ⟨.host, some "--host", none, true⟩,
  ⟨.file, some "--file", none, true⟩,
  ⟨.interface, some "--if", none, true⟩,
  ⟨.allowIncoming, some "--allow-incoming", none, false⟩,
  ⟨.allowOutgoing, some "--allow-outgoing", none, false⟩,
  ⟨.allowPrivateNetwork, some "--allow-private-network", none, false⟩,
  ⟨.allowIcmp, some "--allow-icmp", none, false⟩,
  ⟨.useRouting, some "--use-routing", some 'r', false⟩,
  baselineForm]

def Command.forms : Command → List (Form Key)
  | .enable => lockForms ++ [helpForm]
  | .disable => [baselineForm, helpForm]
  | .print => lockForms ++ [helpForm]
  | .status => [helpForm]

/-! ## Refusals -/

/-- A reason why words do not lead to an action. -/
inductive Refusal where
  | help
  | version
  | misuse (text : String)
  deriving DecidableEq, Repr

/-- The exit code for words that cannot be understood. -/
def misuseCode : Nat :=
  2

/-- The exit code of a run without a command. -/
def noCommandCode : Nat :=
  64

/-- How a part of the command line is used. -/
def usage (part : String) : String :=
  "Usage: netlock " ++ part ++ "\n"

def programUsage : String :=
  usage "[OPTIONS] COMMAND [ARGS]..."

def versionText : String :=
  "netlock, version 0.1.0\n"

/-- Tells the user why nothing is done; `help` is the usage that is referred to. -/
def Refusal.tell (help : String) : Refusal → Action Nat
  | .help => do
      Screen.printResult help
      return 0
  | .version => do
      Screen.printResult versionText
      return 0
  | .misuse text => do
      Action.notice ("Error: " ++ text ++ "\n")
      return misuseCode

/-- What is wrong with a path: nothing is there, or it cannot be read. -/
def pathComplaint? (h : Host) (mustExist : Bool) (path : String) : Option String :=
  match h.files.find path (h.place (Path.ofString path)) with
  | .error _ => if mustExist then some "does not exist" else none
  | .ok (.file _ (some _)) => some "is not readable"
  | .ok _ => none

/-- Refuses a path that is the value of `option`. -/
def checkPath (h : Host) (mustExist : Bool) (option path : String) : Except Refusal Unit :=
  match pathComplaint? h mustExist path with
  | none => .ok ()
  | some complaint =>
      .error (.misuse ("Invalid value for " ++ option ++ ": Path " ++ Text.quote path ++ " "
        ++ complaint ++ "."))

/-! ## The whole program -/

/-- What the words for the whole program ask for, and the words after them. -/
structure Request where
  policyFile : Option String
  verbose : Bool
  words : List String
  deriving DecidableEq, Repr

/-- The first request for a text about the program. -/
def firstQuestion? (p : Parsed GlobalKey) : Option Refusal :=
  p.given.findSome? (fun (key, _) =>
    match key with
    | .help => some .help
    | .version => some .version
    | _ => none)

/-- Reads the words for the whole program. -/
def Request.ofWords (h : Host) (words : List String) : Except Refusal Request := do
  let p ← (parse globalForms false none words).mapError Refusal.misuse
  match firstQuestion? p with
  | some question => throw question
  | none => pure ()
  let policyFile := p.value? .policy
  match policyFile with
  | some path => checkPath h true "'--policy' / '-p'" path
  | none => pure ()
  return ⟨policyFile, p.has .verbose, p.rest⟩

/-- The refusal of a word that names no command. Without a letter or digit in front it is first taken
for an option. -/
def noSuchCommand (h : Host) (words : List String) (word : String) : Refusal :=
  let refusal := Refusal.misuse ("No such command " ++ Text.quote word ++ ".")
  if isOption word then
    match Request.ofWords h words with
    | .error r => r
    | .ok _ => refusal
  else refusal

/-! ## Commands -/

/-- Refuses words that a command has no use for. -/
def checkRest (rest : List String) : Except Refusal Unit :=
  match rest with
  | [] => .ok ()
  | [word] => .error (.misuse ("Got unexpected extra argument (" ++ word ++ ")"))
  | words =>
      .error (.misuse ("Got unexpected extra arguments (" ++ Text.joinWith " " words ++ ")"))

/-- Checks the paths among the values of an option. -/
def checkPaths (h : Host) (p : Parsed Key) : Key → Except Refusal Unit
  | .file => (p.values .file).forM (checkPath h false "'--file'")
  | .baseline =>
      match p.value? .baseline with
      | some path => checkPath h false "'--default-conf'" path
      | none => .ok ()
  | _ => .ok ()

/-- The options of a command. -/
def flagsOf (p : Parsed Key) : Flags where
  addresses := p.values .address
  hosts := p.values .host
  files := p.values .file
  interfaces := p.values .interface
  allow := {
    incoming := p.has .allowIncoming
    outgoing := p.has .allowOutgoing
    privateNetwork := p.has .allowPrivateNetwork
    icmp := p.has .allowIcmp }
  useRouting := p.has .useRouting
  baseline := p.value? .baseline

/-- Reads the words for a command; options are checked in the order in which they first occur. -/
def Command.flags (command : Command) (h : Host) (words : List String) : Except Refusal Flags := do
  let p ← (parse command.forms true none words).mapError Refusal.misuse
  if p.has .help then throw .help
  (Distinct.of (p.given.map (·.1))).forM (checkPaths h p)
  checkRest p.rest
  return flagsOf p

def Command.usage (command : Command) : String :=
  CommandLine.usage (command.name ++ " [OPTIONS]")

/-! ## Runs -/

/-- The action of a command line; the settings are read before the words for the command. -/
def run (words : List String) : Action Nat := do
  let host ← Action.host
  match Request.ofWords host words with
  | .error refusal => refusal.tell programUsage
  | .ok request =>
      match request.words with
      | [] =>
          let _ ← Action.ofOutcome (Settings.ofHost host)
          Action.notice programUsage
          return noCommandCode
      | word :: rest =>
          match Command.ofName? word with
          | none => (noSuchCommand host request.words word).tell programUsage
          | some command =>
              let settings ← Action.ofOutcome (Settings.ofHost host)
              match command.flags host rest with
              | .error refusal => refusal.tell command.usage
              | .ok flags => command.run ⟨settings, request.policyFile⟩ flags

/-- Whether every remark is to be shown. -/
def isVerbose (h : Host) (words : List String) : Bool :=
  match Request.ofWords h words with
  | .ok request => request.verbose
  | .error _ => false

/-- A remark as it is shown. -/
def remarkLine (time : String) (r : Record) : String :=
  time ++ " [" ++ r.level.name ++ "] " ++ r.origin ++ ": " ++ r.text ++ "\n"

/-- What the user sees besides the result. -/
def errorsOf (time : String) (verbose : Bool) (j : Journal) : String :=
  String.join (j.filterMap (fun e =>
    match e with
    | .notice text => some text
    | .remark r => if verbose || r.level = .warning then some (remarkLine time r) else none
    | _ => none))

/-- What can be seen of a run: its exit code, a failure that nothing was said about, the result, and
what was shown besides. -/
structure Report where
  exitCode : Nat
  failure : Option Failure
  output : String
  errors : String

/-- What is read where a carriage return and a line feed are one line break. -/
def Report.withJoinedBreaks (r : Report) : Report :=
  { r with
    output := String.ofList (Text.joinBreaks r.output.toList)
    errors := String.ofList (Text.joinBreaks r.errors.toList) }

/-- What is shown of an interrupted run. -/
def interruption : String :=
  "\nAborted!\n"

def Report.of (time : String) (verbose : Bool) (o : Observation Nat) : Report :=
  let errors := errorsOf time verbose o.journal
  match o.outcome with
  | .ok code => ⟨code, none, o.journal.output, errors⟩
  | .error .interrupted => ⟨failureCode, none, o.journal.output, errors ++ interruption⟩
  | .error (.system e) =>
      ⟨failureCode, if e.meansUnread then none else some (.system e), o.journal.output, errors⟩
  | .error f => ⟨failureCode, some f, o.journal.output, errors⟩

/-- Runs a command line on a machine whose engine has not been used. -/
def observe (words : List String) (m : Machine) : Observation Nat × Machine :=
  (run words).observe { m with located := none }

/-- Runs a command line, and gives what can be seen of it. -/
def execute (time : String) (words : List String) (m : Machine) :
    Report × Observation Nat × Machine :=
  let (seen, after) := observe words m
  (Report.of time (isVerbose m.host words) seen, seen, after)

end CommandLine
end Killswitch
