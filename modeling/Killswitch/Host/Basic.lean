import Killswitch.Failure
import Killswitch.Host.FileSystem
import Killswitch.Path

/-!
# The host

What the program finds outside of itself: files, the environment, a resolver, a routing table, the
network interfaces, the packet filter behind its control program, the user, and a place for scratch
files. A host answers every question in the same way until it is changed.

**Contents.**
* `Run`, `Captured`: how a run of another program ends;
* `Scratch`: what goes wrong with scratch files;
* `Host`: the whole;
* `Host.isDirectory`, `Host.isFile`, `Host.holds`, `Host.read`, `Host.names`: questions about paths.
-/

namespace Killswitch

/-- What a program had written when it was stopped. -/
inductive Captured where
  | nothing
  | text (s : String)
  | bytes (b : List UInt8)
  deriving DecidableEq, Repr

def Captured.toText : Captured → String
  | .nothing => ""
  | .text s => s
  | .bytes b => String.ofList (Text.Utf8.decodeLossy b)

/-- How the run of a program ends: by itself, at its time limit, or not having begun. -/
inductive Run where
  | ended (code : Int) (output errors : String)
  | timedOut (captured : Captured)
  | fault (f : Fault)
  deriving DecidableEq, Repr

/-- What goes wrong when a scratch file is created, written or removed. -/
structure Scratch where
  create : Option Fault
  write : Option Fault
  remove : Option Fault
  deriving DecidableEq, Repr

/-- The world around the program. -/
structure Host where
  /-- the files -/
  files : FileSystem
  /-- where paths without root begin -/
  directory : List String
  /-- the variables of the environment -/
  environment : List (String × String)
  /-- the home directory that the account of the user names -/
  account : Option String := none
  /-- the home directories of the users, by their names -/
  homes : List (String × String)
  /-- what the resolver answers for the names that it knows or stumbles over -/
  resolver : List (String × Except Fault (List String))
  /-- the listing of the routing table -/
  routes : Run
  /-- the names of the network interfaces -/
  interfaces : Except Fault (List String)
  /-- the paths of the programs that can be found -/
  programs : List (String × String)
  /-- the report of the packet filter about itself -/
  report : Run
  /-- the loading of a ruleset into the packet filter -/
  load : Run
  /-- the number of the user, zero for the one who may do everything -/
  user : Int
  /-- the place for scratch files -/
  scratch : Scratch

namespace Host

/-- The value of a variable that is set and not empty. -/
def environmentValue? (h : Host) (name : String) : Option String :=
  match h.environment.lookup name with
  | some value => if value = "" then none else some value
  | none => none

/-- The home directory of a user. That of the user without a name is in the environment, or else that of
the account. -/
def home (h : Host) (name : String) : Option String :=
  if name = "" then (h.environment.lookup "HOME").or h.account else h.homes.lookup name

/-- Whether the first component of a path names a user that no host can have. -/
def hasNullUser (p : Path) : Bool :=
  match p.parts with
  | first :: _ => first != "~" && first.toList.contains (Char.ofNat 0)
  | [] => false

/-- A path with a leading tilde replaced by the home directory. -/
def expand (h : Host) (p : Path) : Except Failure Path :=
  match p.expandHome? h.home with
  | some q => .ok q
  | none => .error (if hasNullUser p then .nullInPath else .homeUnknown)

/-- What the resolver answers for a name. -/
def addresses (h : Host) (name : String) : Except Fault (List String) :=
  match h.resolver.lookup name with
  | some answer => answer
  | none => .error (.system ⟨-2, "Name or service not known", none⟩)

/-! ## Paths -/

/-- The components of a path from the root. Double dots are resolved by the spelling, whether or not
what they leave is there. -/
def place (h : Host) (p : Path) : List String :=
  p.resolve h.directory

/-- Whether a path has a null character, which no entry can have. -/
def hasNull (p : Path) : Bool :=
  p.toString.toList.contains (Char.ofNat 0)

/-- The answer to a question about what a path leads to. -/
def ask (h : Host) (holds : Node → Bool) (p : Path) : Except SystemError Bool :=
  if hasNull p then .ok false
  else FileSystem.ask holds (h.files.find p.toString (h.place p))

def isDirectory (h : Host) (p : Path) : Except SystemError Bool :=
  h.ask Node.isDirectory p

def isFile (h : Host) (p : Path) : Except SystemError Bool :=
  h.ask Node.isFile p

def holds (h : Host) (p : Path) : Except SystemError Bool :=
  h.ask (fun _ => true) p

def read (h : Host) (p : Path) : Except Failure (List UInt8) :=
  if hasNull p then .error .nullInPath
  else (h.files.read p.toString (h.place p)).mapError .system

def names (h : Host) (p : Path) : Except SystemError (List String) :=
  h.files.names p.toString (h.place p)

end Host
end Killswitch
