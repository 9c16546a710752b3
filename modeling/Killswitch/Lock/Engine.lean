import Killswitch.Action
import Killswitch.Text.Blank

/-!
# The engine

The packet filter is driven by a control program. The program is looked for once and its path is
remembered, until it is looked for again or was not found.

**Contents.**
* `Engine.locate`: looks for the program, and remembers the answer;
* `Engine.status`: the filter's report, which may take only so long;
* `Engine.load`: replaces all rules by those of a file, however long it takes, since a load that is
  stopped half way leaves no rules at all.
-/

namespace Killswitch
namespace Engine

def origin : String :=
  "netlock.pf.engine"

/-- The seconds that a report may take. -/
def statusLimit : Nat :=
  10

/-- The failure of a program that cannot be found. -/
def notFound (binary : String) : Failure :=
  .diagnostic (.of .precondition (binary ++ " not found on PATH"))

/-- Looks for the control program and remembers the answer. -/
def locate (binary : String) : Action (Option String) := do
  let found ← Action.locateProgram binary
  modify (fun m => { m with located := found })
  Action.remark .debug origin ("Resolved " ++ binary ++ " to " ++ found.getD "None")
  return found

/-- The path of the control program, remembered or looked for. -/
def path (binary : String) : Action String := do
  let remembered := (← get).located
  let found ←
    if remembered.getD "" = "" then locate binary
    else pure remembered
  match found with
  | some path => return path
  | none => throw (notFound binary)

/-- The arguments of a command in one line. -/
def commandLine (command : List String) : String :=
  Text.joinWith " " command

/-- The output of a run that ended well. The filter is run with both of its outputs joined, so `output` holds
what it has written about errors too. `limit` is the time limit in words. -/
def outputOf (path : String) (command : List String) (limit : String) : Run → Except Failure String
  | .ended code output _ =>
      if code = 0 then .ok output
      else .error (.diagnostic (.of (.engine output (some code))
        (commandLine command ++ " exited with status " ++ toString code)))
  | .timedOut captured =>
      .error (.diagnostic (.of (.engine captured.toText none)
        (commandLine command ++ " timed out after " ++ limit ++ "s")))
  | .fault (.system e) =>
      .error (.diagnostic (.of (.engine "" none) ("failed to run " ++ path ++ ": " ++ e.message)))
  | .fault f => .error (.ofFault f)

/-- Runs a command of the control program. -/
def execute (path : String) (command : List String) (limit : String) (run : Action Run) :
    Action String := do
  Action.remark .debug origin ("Executing: " ++ commandLine command)
  Action.ofOutcome (outputOf path command limit (← run))

/-- The filter's report about itself. -/
def status (binary : String) : Action String := do
  let path ← path binary
  let command := [path, "-s", "info"]
  execute path command (toString statusLimit) (Action.report command statusLimit)

/-- Replaces all rules by those of a file, and gives what the filter writes. -/
def load (binary file : String) : Action String := do
  let path ← path binary
  let command := [path, "-F", "all", "-f", file]
  execute path command "None" (Action.load command file)

end Engine
end Killswitch
