import Killswitch.Action
import Killswitch.Endpoint.Line
import Killswitch.Text.Lines

/-!
# Endpoints in files

The servers that a client configuration file names, or all such files of a directory. A directory
is read one level deep: its files in the order of their names, those whose names start with a dot
left out.

**Contents.**
* `ofBytes`: the hosts that the lines of a file name;
* `ofFile`: the hosts of the file that a path leads to, with a warning where there is none;
* `entries`: the files of a directory that are read;
* `ofPath`: the hosts of a file or directory.
-/

namespace Killswitch
namespace Endpoint

def origin : String :=
  "netlock.destinations"

/-- The hosts that the lines of a file name. Bytes that spell no text are replaced. -/
def ofBytes (bytes : List UInt8) : List String :=
  (Text.lines (Text.unifyBreaks (Text.Utf8.decodeLossy bytes))).filterMap
    (fun line => (ofLine? line).map String.ofList)

/-- Fails since the destinations named by a file are not known. -/
def unknown {α : Type} (text : String) : Action α :=
  throw (.diagnostic (.of .destination text))

/-- The hosts of the file that a path leads to. -/
def ofFile (path : Path) : Action (List String) := do
  match (← Action.host).read path with
  | .ok bytes =>
      let hosts := ofBytes bytes
      if hosts.isEmpty then
        Action.remark .warning origin
          ("No remote or Endpoint lines found in " ++ path.toString)
      return hosts
  | .error (.system e) => unknown ("cannot read " ++ path.toString ++ ": " ++ e.message)
  | .error f => throw f

/-- The files of a directory that are read. Every entry is looked at, also one left out for its name. -/
def entries (host : Host) (directory : Path) : Except SystemError (List Path) := do
  let names ← host.names directory
  let files ← names.filterM (fun name => host.isFile (directory.child name))
  let visible := files.filter (fun name => name.toList.head? != some '.')
  return (FileSystem.inOrder visible).map directory.child

/-- The hosts of the file or directory that a path leads to. -/
def ofPath (path : String) : Action (List String) := do
  let host ← Action.host
  let path ← Action.ofOutcome (host.expand (Path.ofString path))
  match host.isDirectory path with
  | .error e => throw (.system e)
  | .ok false => ofFile path
  | .ok true =>
      match entries host path with
      | .error e =>
          unknown ("cannot read directory " ++ path.toString ++ ": " ++ e.message)
      | .ok files => return (← files.mapM ofFile).flatten

end Endpoint
end Killswitch
