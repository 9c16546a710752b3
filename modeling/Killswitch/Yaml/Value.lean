import Killswitch.Text.Search
import Killswitch.Yaml.Members

/-!
# Values of documents

What a document means: atoms, lists, mappings, sets and pairs. A value may be a part of several others,
and of itself, so the values of a document are kept in a table, and parts are named by their places in
it.

**Contents.**
* `Value`, `Document`: a value with its parts by their places, and the table of values;
* `Document.get?`, `Document.isEmptyAt`: the entries of the outermost mapping, and whether a value counts
  as absent;
* `Document.shown` and `Document.plain`: the value at a place in a message, and as a text of its own.
-/

namespace Killswitch
namespace Yaml

/-- A value, with its parts by their places. -/
inductive Value where
  | atom (a : Atom)
  | list (items : List Nat)
  | mapping (entries : List (Atom × Nat))
  | set (members : List Atom)
  | pair (first second : Nat)

/-- Whether a value counts as absent where something is asked for. -/
def Value.isEmpty : Value → Bool
  | .atom a => a.isEmpty
  | .list items => items.isEmpty
  | .mapping entries => entries.isEmpty
  | .set members => members.isEmpty
  | .pair _ _ => false

/-- The mark for a value inside itself. -/
def Value.selfMark : Value → String
  | .list _ => "[...]"
  | .pair _ _ => "(...)"
  | _ => "\x7b...\x7d"

/-- The values of a document, and the place of the outermost one. -/
structure Document where
  values : Array Value
  root : Option Nat

namespace Document

def value (d : Document) (place : Nat) : Value :=
  d.values[place]?.getD (.atom .null)

/-- The outermost value, which is nothing where the document is empty. -/
def rootValue (d : Document) : Value :=
  (d.root.map d.value).getD (.atom .null)

/-- The place of the entry under a key of the outermost mapping. -/
def get? (d : Document) (key : String) : Option Nat :=
  match d.rootValue with
  | .mapping entries => (entries.find? (fun e => e.1.isText key)).map (·.2)
  | _ => none

/-- Whether the value at a place counts as absent. -/
def isEmptyAt (d : Document) (place : Nat) : Bool :=
  (d.value place).isEmpty

/-! ## Text -/

/-- Texts with commas between them. -/
def listed (items : List String) : String :=
  Text.joinWith ", " items

/-- The value at a place as it is shown inside the values at some places, where a value inside itself is
only marked. No limit is set to how deep values may be inside each other. -/
def shownInside (d : Document) : (fuel : Nat) → (around : List Nat) → Nat → Except Fault String
  | 0, _, place => .ok (d.value place).selfMark
  | fuel + 1, around, place =>
      if place ∈ around then .ok (d.value place).selfMark
      else
        let inside := shownInside d fuel (place :: around)
        match d.value place with
        | .atom a => a.shown
        | .list items => do return "[" ++ listed (← items.mapM inside) ++ "]"
        | .mapping entries => do
            let parts ← entries.mapM (fun (key, place) => do
              return (← key.shown) ++ ": " ++ (← inside place))
            return "\x7b" ++ listed parts ++ "\x7d"
        | .set members =>
            if members.isEmpty then .ok "set()"
            else do
              return "\x7b" ++ listed (← (Members.ordered members).mapM Atom.shown) ++ "\x7d"
        | .pair first second => do
            return "(" ++ listed [← inside first, ← inside second] ++ ")"

/-- The value at a place as messages show it. Values are not deeper inside each other than there are
places. -/
def shown (d : Document) (place : Nat) : Except Fault String :=
  d.shownInside (d.values.size + 1) [] place

/-- The value at a place as a text of its own. -/
def plain (d : Document) (place : Nat) : Except Fault String :=
  match d.value place with
  | .atom a => a.plain
  | _ => d.shown place

end Document
end Yaml
end Killswitch
