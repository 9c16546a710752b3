import Killswitch.Host.Basic
import Killswitch.Journal
import Killswitch.Text.Search

/-!
# Actions

An action is a computation on a machine: it may ask the host, change scratch files, write to the
journal, and fail. A failed action leaves what it has done so far.

**Contents.**
* `Machine`: the host, the journal, and what is remembered from one step to the next;
* `Action`, `Action.attempt`: computations, and one whose failure is handed over as a value;
* `Action.remark`, `Action.notice`, `Action.write`: entries of the journal;
* `Action.resolveName`, `Action.listRoutes`, `Action.locateProgram`, `Action.report`, `Action.load`:
  the requests to the host, each entered into the journal before it is answered;
* `Action.createScratch`, `Action.writeScratch`, `Action.removeScratch`: scratch files, whose removal
  is entered too.
-/

namespace Killswitch

/-- A host with the state of a run: the number of scratch files, where the control program was found
last, and the journal. -/
structure Machine where
  host : Host
  scratchFiles : Nat
  located : Option String
  journal : Journal

def Machine.ofHost (h : Host) : Machine :=
  ⟨h, 0, none, []⟩

/-- A computation on a machine. -/
abbrev Action := ExceptT Failure (StateM Machine)

namespace Action

/-- An action whose outcome is handed over as a value. -/
def attempt {α : Type} (a : Action α) : Action (Except Failure α) :=
  fun m =>
    let (outcome, m) := a m
    (.ok outcome, m)

/-- An outcome as an action without effect. -/
def ofOutcome {α : Type} (outcome : Except Failure α) : Action α :=
  fun m => (outcome, m)

@[simp] theorem attempt_run
    {α : Type} (a : Action α) (m : Machine) :
    attempt a m = (.ok (a m).1, (a m).2) := by
  rfl

@[simp] theorem ofOutcome_run
    {α : Type} (outcome : Except Failure α) (m : Machine) :
    ofOutcome outcome m = (outcome, m) := by
  rfl

def host : Action Host := do
  return (← get).host

@[simp] theorem host_run
    (m : Machine) :
    host m = (.ok m.host, m) := by
  rfl

/-! ## The journal -/

/-- Adds an entry to the journal. -/
def enter (e : Event) : Action Unit :=
  modify (fun m => { m with journal := m.journal ++ [e] })

/-- Entering an event changes nothing but the journal, and never fails. -/
@[simp] theorem enter_run
    (e : Event) (m : Machine) :
    enter e m = (.ok (), { m with journal := m.journal ++ [e] }) := by
  rfl

def remark (level : Level) (origin text : String) : Action Unit :=
  enter (.remark ⟨level, origin, text⟩)

/-- Shows a text to the user. -/
def notice (text : String) : Action Unit :=
  enter (.notice text)

/-- Writes a text as a part of the result. -/
def write (text : String) : Action Unit :=
  enter (.output text)

/-! ## Requests -/

/-- Asks the resolver for the addresses of a name. -/
def resolveName (name : String) : Action (Except Fault (List String)) := do
  enter (.call (.resolve name))
  return (← host).addresses name

/-- The command that lists the routing table. -/
def routesCommand : List String :=
  ["netstat", "-lnr", "-f", "inet"]

/-- The seconds that listing the routing table may take. -/
def routesLimit : Nat :=
  5

def listRoutes : Action Run := do
  enter (.call (.run routesCommand routesLimit))
  return (← host).routes

/-- Looks for a program. -/
def locateProgram (binary : String) : Action (Option String) := do
  enter (.call (.locate binary))
  return (← host).programs.lookup binary

/-- Asks the packet filter for its report. -/
def report (arguments : List String) (limit : Nat) : Action Run := do
  enter (.call (.run arguments limit))
  return (← host).report

/-- Asks the packet filter to load the file under `path`, which `arguments` name. A path that no file
can have ends the request before the file is looked at. -/
def load (arguments : List String) (path : String) : Action Run := do
  let h ← host
  match h.read (Path.ofString path) with
  | .ok bytes =>
      enter (.call (.load arguments (some (String.ofList (Text.Utf8.decodeLossy bytes)))))
  | .error .nullInPath =>
      enter (.call (.run arguments none))
      throw .nullInPath
  | .error _ => enter (.call (.load arguments none))
  return h.load

/-! ## Scratch files -/

/-- Changes the files of the host. -/
def changeFiles (change : FileSystem → FileSystem) : Action Unit :=
  modify (fun m => { m with host := { m.host with files := change m.host.files } })

/-- The name of a scratch file by its number. -/
def scratchPath (n : Nat) : String :=
  "/tmp/netlock." ++ toString n ++ ".conf"

/-- Creates an empty scratch file. -/
def createScratch : Action (Except Fault String) := do
  match (← host).scratch.create with
  | some f => return .error f
  | none =>
      modify (fun m => { m with scratchFiles := m.scratchFiles + 1 })
      let path := scratchPath (← get).scratchFiles
      changeFiles (fun fs => fs.put (Path.ofString path).parts (.file [] none))
      return .ok path

/-- Writes a text to a scratch file. -/
def writeScratch (path text : String) : Action (Except Fault Unit) := do
  match (← host).scratch.write with
  | some f => return .error f
  | none =>
      changeFiles (fun fs =>
        fs.put (Path.ofString path).parts (.file (Text.Utf8.encode text.toList) none))
      return .ok ()

/-- Removes a scratch file. -/
def removeScratch (path : String) : Action (Except Fault Unit) := do
  enter (.removal path)
  match (← host).scratch.remove with
  | some (.system e) => return .error (.system (e.about path))
  | some f => return .error f
  | none =>
      changeFiles (fun fs => fs.remove (Path.ofString path).parts)
      return .ok ()

end Action
end Killswitch
