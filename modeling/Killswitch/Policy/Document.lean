import Killswitch.Failure
import Killswitch.Host.Basic
import Killswitch.Policy.Basic
import Killswitch.Yaml.Document

/-!
# Policy documents

A policy document is a mapping. Its entries are lists of texts, truth values, and the path of the
baseline; whatever else it holds is ignored.

**Rules.**
* A list may be left out, be empty in any sense, or be one bare text.
* Items that are no texts are taken as they are written out.
* The entries are looked at in a fixed order, so of two faults the one of the earlier key counts.

**Contents.**
* `strings`, `flag`, `text`: the entry under a key, read as each of the three;
* `ofDocument`: the options that a document asks for, where paths of files are seen from a directory if
  one is given;
* `ofText`: the options of the only document of a text.
-/

namespace Killswitch
namespace PolicyDocument

open Yaml (Document)

/-- A text of a document, if it can be written out. -/
def written (text : Except Yaml.Fault String) : Except Failure String :=
  text.mapError .document

/-- The place of the entry under a key, unless it is empty. -/
def entry? (d : Document) (key : String) : Option Nat :=
  (d.get? key).filter (fun place => !d.isEmptyAt place)

/-- The entry under a key as a list of texts; a bare text is a list of one. -/
def strings (d : Document) (key : String) : Except Failure (List String) :=
  match entry? d key with
  | none => .ok []
  | some place =>
      match d.value place with
      | .atom (.text s) => .ok [Yaml.Letter.toText s]
      | .list items => items.mapM (fun place => written (d.plain place))
      | _ => .error (.notList key)

/-- The entry under a key as a truth value, false where it is left out. -/
def flag (d : Document) (key : String) : Except Failure Bool :=
  match d.get? key with
  | none => .ok false
  | some place =>
      match d.value place with
      | .atom (.truth b) => .ok b
      | _ => do throw (.notFlag key (← written (d.shown place)))

/-- The entry under a key as one text, empty where it is left out. -/
def text (d : Document) (key : String) : Except Failure String :=
  match entry? d key with
  | none => .ok ""
  | some place => written (d.plain place)

/-- The path of a file as a document in the given directory names it. -/
def filePath (host : Host) (directory : Option Path) (file : String) : Except Failure String :=
  match directory with
  | none => .ok file
  | some directory => do
      let path ← host.expand (Path.ofString file)
      return (directory.join path).toString

/-- The options that the entries of a document ask for. -/
def ofEntries (host : Host) (directory : Option Path) (d : Document) : Except Failure Options := do
  let addresses ← strings d "ips"
  let hosts ← strings d "hosts"
  let files ← (← strings d "files").mapM (filePath host directory)
  let incoming ← flag d "allow_incoming"
  let outgoing ← flag d "allow_outgoing"
  let privateNetwork ← flag d "allow_private_network"
  let icmp ← flag d "allow_icmp"
  let interfaces ← strings d "interfaces"
  let useRouting ← flag d "use_routing"
  let baseline ← text d "default_conf"
  return {
    allow := ⟨incoming, outgoing, privateNetwork, icmp⟩
    interfaces := interfaces
    sources := Source.listOf addresses hosts files
    useRouting := useRouting
    baseline := baseline }

/-- The options that a document asks for; unless it holds nothing, it must be a mapping. -/
def ofDocument (host : Host) (directory : Option Path) (d : Document) : Except Failure Options :=
  match d.rootValue with
  | .atom .null => ofEntries host directory d
  | .mapping _ => ofEntries host directory d
  | _ => .error .notMapping

/-- The options that the only document of a text asks for. -/
def ofText (host : Host) (directory : Option Path) (text : String) : Except Failure Options := do
  ofDocument host directory (← (Document.ofText text).mapError Failure.document)

end PolicyDocument
end Killswitch
