import Killswitch.CommandLine.Run

/-!
# The program

The command line on the host that the program runs on. It reads the environment and the files that
the command line, the environment and the policy file name. It starts no other program: no name is
resolved, and no packet filter is found. So `print` writes the rules for destinations that are
addresses, and `enable` and `disable` end at their first precondition.

**Contents.**
* `Program.named`: the paths that are read before a run;
* `Program.hostOf`: the host as it is found;
* `main`: the run.
-/

namespace Killswitch
namespace Program

/-- The variables of the environment that make a difference. -/
def variableNames : List String :=
  ["HOME", "XDG_CONFIG_HOME", "NETLOCK_DEFAULT_CONF", "NETLOCK_PFCTL", "NETLOCK_POLICY"]

/-- A host without files on which nothing can be run. -/
def bareHost (directory : List String) (environment : List (String × String)) : Host where
  files := ⟨[(directory, .directory none)]⟩
  directory := directory
  environment := environment
  homes := [("root", "/root")]
  resolver := []
  routes := .fault (.system (.noSuchEntry "netstat"))
  interfaces := .error .listing
  programs := []
  report := .fault (.system (.noSuchEntry "pfctl"))
  load := .fault (.system (.noSuchEntry "pfctl"))
  user := 0
  scratch := ⟨none, none, none⟩

/-- The paths that may be in a word: itself, and what follows an equals sign. -/
def pathsIn (word : String) : List String :=
  word :: ((Text.cutAt '=' word.toList).2.map String.ofList).toList

def filesOfPolicy (h : Host) (path : Path) : List String :=
  match PolicyFile.read h path with
  | .ok options => (options.sources.filter (fun s => s.kind = .file)).map Source.value
  | .error _ => []

/-- The paths that the words and the settings name, and those that policy files among them name. -/
def named (h : Host) (words : List String) : List String :=
  let given := words.flatMap pathsIn
  let set :=
    match Settings.ofHost h with
    | .ok s => s.baseline :: (s.policyFile.map Path.toString).toList
    | .error _ => []
  let policies := given ++ set
  policies ++ policies.flatMap (fun path => filesOfPolicy h (Path.ofString path))

/-- The host with the file under a path, if it can be read. -/
def withFile (h : Host) (path : String) : IO Host := do
  match h.expand (Path.ofString path) with
  | .error _ => return h
  | .ok expanded =>
      try
        let bytes ← IO.FS.readBinFile expanded.toString
        return { h with files := h.files.put (h.place expanded) (.file bytes.toList none) }
      catch _ => return h

/-- The policy file beside the configuration. -/
def candidates (h : Host) : List String :=
  match Settings.directoryOf h with
  | .ok directory => [(directory.child "policy.yaml").toString]
  | .error _ => []

def hostOf (words : List String) : IO Host := do
  let directory := (Path.ofString (toString (← IO.currentDir))).parts
  let environment ← variableNames.filterMapM (fun name => do
    return (← IO.getEnv name).map (fun value => (name, value)))
  let bare := bareHost directory environment
  let known ← (candidates bare ++ named bare words).foldlM withFile bare
  (named known words).foldlM withFile known

/-- The time of day of a clock that has counted some seconds. -/
def timeOf (seconds : Nat) : String :=
  let two (n : Nat) : String := (if n < 10 then "0" else "") ++ toString n
  two (seconds / 3600 % 24) ++ ":" ++ two (seconds / 60 % 60) ++ ":" ++ two (seconds % 60)

end Program
end Killswitch

/-- Runs a command line, and gives its exit code. -/
def main (words : List String) : IO UInt32 := do
  let host ← Killswitch.Program.hostOf words
  let time := Killswitch.Program.timeOf ((← IO.monoMsNow) / 1000)
  let (report, _, _) := Killswitch.CommandLine.execute time words (.ofHost host)
  IO.eprint report.errors
  IO.print report.output
  match report.failure with
  | some f => IO.eprintln f.message
  | none => pure ()
  return UInt32.ofNat report.exitCode
