import Killswitch.Lock.Engine
import Killswitch.Ruleset.Lock
import Killswitch.Text.LetterCase

/-!
# The lock

The lock is put on by loading the ruleset of a policy, and taken off by loading the policy's
baseline. Nothing is loaded unless all preconditions hold: the control program is found, the user may
do everything, the baseline is there, and the filter is enabled. They are checked in this order.

**The ruleset file.** The rules of a policy are handed over in a scratch file. It is removed whether
the load succeeds or not. A failed removal hides no earlier failure; it is only warned about then.

**Contents.**
* `State`: what is known about the lock;
* `check`: the preconditions;
* `writeRules`, `removeRules`: the scratch file;
* `enable`, `disable`, `isEnabled`, `probe`: the operations.
-/

namespace Killswitch
namespace Lock

/-- What is known about the lock. An enabled filter does not show whether it holds one. -/
inductive State where
  | unknown
  | disabledOrAbsent
  | locked
  | restored
  deriving DecidableEq, Repr

def State.name : State → String
  | .unknown => "unknown"
  | .disabledOrAbsent => "firewall-disabled-or-absent"
  | .locked => "locked"
  | .restored => "restored"

def origin : String :=
  "netlock.pf.controller"

/-- What an enabled filter reports, whatever the case of the letters. -/
def enabledMark : String :=
  "status: enabled"

/-- Whether a report is one of an enabled filter. -/
def saysEnabled (report : String) : Bool :=
  Text.contains enabledMark.toList (Text.lower report.toList)

/-- Whether the filter reports that it is enabled. -/
def isEnabled (binary : String) : Action Bool := do
  return saysEnabled (← Engine.status binary)

/-- What a question about the filter shows. -/
def probe (binary : String) : Action State := do
  match ← Engine.locate binary with
  | none => return .disabledOrAbsent
  | some _ => return if ← isEnabled binary then .unknown else .disabledOrAbsent

def unmet (text : String) : Action Unit :=
  throw (.diagnostic (.of .precondition text))

/-- The preconditions of both operations, the first one that does not hold first. -/
def check (binary : String) (p : Policy) : Action Unit := do
  if (← Engine.locate binary).isNone then throw (Engine.notFound binary)
  let host ← Action.host
  if host.user ≠ 0 then unmet ("root privileges are required for " ++ binary)
  match host.holds (Path.ofString p.baseline) with
  | .error e => throw (.system e)
  | .ok false => unmet ("default configuration " ++ p.baseline ++ " does not exist")
  | .ok true => pure ()
  if !(← isEnabled binary) then unmet "packet filter is disabled"

/-! ## The ruleset file -/

/-- The failure of work on a scratch file. -/
def resource (text : String) : Failure :=
  .diagnostic (.of .resource text)

/-- Removes a ruleset file; one that is gone needs no removal. -/
def removeRules (path : String) : Action Unit := do
  match ← Action.removeScratch path with
  | .ok () => return
  | .error (.system e) =>
      if e.meansGone then return
      else throw (resource ("cannot remove " ++ path ++ ": " ++ e.message))
  | .error f => throw (.ofFault f)

/-- Removes a ruleset file after a failure. If it cannot be removed, that is only warned about. -/
def discardRules (path : String) : Action Unit := do
  match ← Action.attempt (removeRules path) with
  | .ok () => return
  | .error (.diagnostic d) => Action.remark .warning origin d.message
  | .error f => throw f

/-- Writes rules to a new file, and gives its path. -/
def writeRules (rules : String) : Action String := do
  match ← Action.createScratch with
  | .error (.system e) =>
      throw (resource ("cannot create temporary ruleset file: " ++ e.message))
  | .error f => throw (.ofFault f)
  | .ok path =>
      match ← Action.writeScratch path rules with
      | .error (.system e) =>
          discardRules path
          throw (resource ("cannot write " ++ path ++ ": " ++ e.message))
      | .error f => throw (.ofFault f)
      | .ok () =>
          Action.remark .debug origin ("Wrote lock ruleset to " ++ path)
          return path

/-! ## Operations -/

/-- Remarks what the filter wrote during a load. -/
def remarkOutput (output : String) : Action Unit :=
  Action.remark .debug origin ("Engine output: " ++ String.ofList (Text.trim output.toList))

/-- Puts the lock of a policy on. -/
def enable (binary : String) (p : Policy) : Action State := do
  check binary p
  let path ← writeRules p.ruleset
  match ← Action.attempt (Engine.load binary path) with
  | .error f =>
      discardRules path
      throw f
  | .ok output =>
      removeRules path
      remarkOutput output
      Action.remark .info origin
        ("Lock enabled with " ++ toString p.destinations.length ++ " destination(s)")
      return .locked

/-- Takes the lock off and goes back to the baseline of a policy. -/
def disable (binary : String) (p : Policy) : Action State := do
  check binary p
  let output ← Engine.load binary p.baseline
  remarkOutput output
  Action.remark .info origin ("Lock disabled, loaded " ++ p.baseline)
  return .restored

end Lock
end Killswitch
