import Killswitch.Host.Fault

/-!
# File systems

A file system is a list of entries, each under the components of its path from the root. A
directory needs no entry of its own when something lies below it. It lists what it holds in the
order of the entries.

**Walking.** A path is looked up from the root, one component after the other. The walk ends at the
first component that is missing, cannot be reached, or is a file with components left.

**Contents.**
* `Node`, `FileSystem`: the entries;
* `find`: what a path leads to;
* `ask`: the answer to a question about an entry, no where nothing is;
* `read`, `names`: the bytes of a file and the names in a directory;
* `put`, `remove`: changes of one entry;
* `inOrder`, `filesBelow`: names put in order, and those of the files in a directory.
-/

namespace Killswitch

/-- What stands under a path. Files may refuse to be read, directories to be listed, and other entries
any answer. -/
inductive Node where
  | file (bytes : List UInt8) (refusal : Option SystemError)
  | directory (refusal : Option SystemError)
  | unreachable (e : SystemError)
  deriving DecidableEq, Repr

def Node.isDirectory : Node → Bool
  | .directory _ => true
  | _ => false

def Node.isFile : Node → Bool
  | .file _ _ => true
  | _ => false

/-- The entries of a file system by their components. -/
structure FileSystem where
  entries : List (List String × Node)
  deriving Repr

namespace FileSystem

/-- What stands under some components: an entry, or a directory that holds one. -/
def node? (fs : FileSystem) (parts : List String) : Option Node :=
  match fs.entries.lookup parts with
  | some node => some node
  | none =>
      if parts = [] ∨ fs.entries.any (fun e => parts.isPrefixOf e.1) then some (.directory none)
      else none

/-- What a walk along `rest` from the directory `done` leads to; `name` is the path in words. -/
def walk (fs : FileSystem) (name : String) (done : List String) :
    (rest : List String) → Except SystemError Node
  | [] =>
      match fs.node? done with
      | none => .error (.noSuchEntry name)
      | some (.unreachable e) => .error (e.about name)
      | some node => .ok node
  | part :: rest =>
      match fs.node? done with
      | none => .error (.noSuchEntry name)
      | some (.unreachable e) => .error (e.about name)
      | some (.file _ _) => .error (.notDirectory name)
      | some (.directory _) => walk fs name (done ++ [part]) rest

/-- What some components lead to from the root. -/
def find (fs : FileSystem) (name : String) (parts : List String) : Except SystemError Node :=
  fs.walk name [] parts

/-- The answer to a question about an entry: no where there is none. -/
def ask (holds : Node → Bool) (found : Except SystemError Node) : Except SystemError Bool :=
  match found with
  | .ok node => .ok (holds node)
  | .error e => if e.meansAbsent then .ok false else .error e

def read (fs : FileSystem) (name : String) (parts : List String) :
    Except SystemError (List UInt8) :=
  match fs.find name parts with
  | .error e => .error e
  | .ok (.file bytes none) => .ok bytes
  | .ok (.file _ (some e)) => .error (e.about name)
  | .ok (.directory _) => .error (.isDirectory name)
  | .ok (.unreachable e) => .error (e.about name)

/-- The names directly below some components, each one once. -/
def namesBelow (fs : FileSystem) (parts : List String) : List String :=
  (fs.entries.filterMap (fun e =>
    if parts.isPrefixOf e.1 then (e.1.drop parts.length).head? else none)).eraseDups

def names (fs : FileSystem) (name : String) (parts : List String) :
    Except SystemError (List String) :=
  match fs.find name parts with
  | .error e => .error e
  | .ok (.directory none) => .ok (fs.namesBelow parts)
  | .ok (.directory (some e)) => .error (e.about name)
  | .ok (.file _ _) => .error (.notDirectory name)
  | .ok (.unreachable e) => .error (e.about name)

/-- The file system without the entry under some components. -/
def remove (fs : FileSystem) (parts : List String) : FileSystem :=
  ⟨fs.entries.filter (fun e => e.1 != parts)⟩

/-- The file system with a node in the place of what stood there. -/
def put (fs : FileSystem) (parts : List String) (node : Node) : FileSystem :=
  ⟨(fs.remove parts).entries ++ [(parts, node)]⟩

/-- Names in the order of their characters. -/
def inOrder (names : List String) : List String :=
  names.mergeSort (fun a b => decide (a ≤ b))

/-- The names of the files directly below some components, in order. -/
def filesBelow (fs : FileSystem) (parts : List String) : List String :=
  inOrder ((fs.namesBelow parts).filter (fun name =>
    (fs.entries.lookup (parts ++ [name])).any Node.isFile))

end FileSystem
end Killswitch
