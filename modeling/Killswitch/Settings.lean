import Killswitch.Host.Basic
import Killswitch.Policy.Basic

/-!
# Settings

What the environment says about a run: the baseline to go back to, the control program, and the
policy file that is read where none is named. A variable that is empty counts as not set.

**Rules.**
* The configuration lies below the directory that the environment names for it, or else below the
  home directory.
* A policy file that the environment names is taken whether it is there or not; the one beside the
  configuration is taken only if it is there.
-/

namespace Killswitch

/-- What the environment says about a run. -/
structure Settings where
  directory : Path
  baseline : String
  binary : String
  policyFile : Option Path
  deriving DecidableEq, Repr

namespace Settings

/-- The directory of the configuration. -/
def directoryOf (h : Host) : Except Failure Path :=
  match h.environmentValue? "XDG_CONFIG_HOME" with
  | some directory => .ok ((Path.ofString directory).child "netlock")
  | none => do
      let home ← h.expand (Path.ofString "~")
      return (home.child ".config").child "netlock"

/-- The policy file that is read where none is named. -/
def policyFileOf (h : Host) (directory : Path) : Except Failure (Option Path) :=
  match h.environmentValue? "NETLOCK_POLICY" with
  | some path => .ok (some (Path.ofString path))
  | none =>
      let candidate := directory.child "policy.yaml"
      match h.isFile candidate with
      | .error e => .error (.system e)
      | .ok there => .ok (if there then some candidate else none)

/-- The settings that the environment of a host makes. -/
def ofHost (h : Host) : Except Failure Settings := do
  let directory ← directoryOf h
  return {
    directory := directory
    baseline := (h.environmentValue? "NETLOCK_DEFAULT_CONF").getD usualBaseline
    binary := (h.environmentValue? "NETLOCK_PFCTL").getD "pfctl"
    policyFile := ← policyFileOf h directory }

end Settings
end Killswitch
