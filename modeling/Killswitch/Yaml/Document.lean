import Killswitch.Yaml.Base64
import Killswitch.Yaml.Graph
import Killswitch.Yaml.Number
import Killswitch.Yaml.Value

/-!
# The value of a document

The nodes of a document become values from the root outwards, one layer after the other: a container
is known as soon as it is met, and its parts are looked at when its turn comes. So a container may
hold itself, and of two faults in different layers the outer one counts. A value has the place of its
node; the pairs of a list, which are no nodes, have places behind those of all nodes.

**Merging.** The entries of a mapping under a merge key go in front of the entries of the mapping
that has the key; later entries win.

**Contents.**
* `scalarValue`: the value of a scalar node;
* `complete`: the parts of a container;
* `Document.ofText`: the values of the only document of a text.
-/

namespace Killswitch
namespace Yaml
namespace Document

/-- The state of finding values: the nodes, the values by their places, and the containers that wait. -/
structure State where
  nodes : Array Node
  values : Array (Option Value)
  waiting : List Nat

/-- A step of finding values. -/
abbrev Build := StateT State (Except Fault)

def nodeAt (id : Nat) : Build Node := do
  match (← get).nodes[id]? with
  | some n => return n
  | none => throw .malformed

/-! ## Scalars -/

/-- The text of a scalar; a mapping may hold it under the default key. -/
def scalarText : (fuel : Nat) → Nat → Build (List Letter)
  | 0, _ => throw .malformed
  | fuel + 1, id => do
      match (← nodeAt id).body with
      | .scalar text => return text
      | .sequence _ => throw .malformed
      | .mapping entries => do
          let nodes := (← get).nodes
          match entries.find? (fun e => nodes[e.1]?.any (·.tag == .default)) with
          | some e => scalarText fuel e.2
          | none => throw .malformed

/-- A text without one line feed at its end. -/
def withoutFinalBreak (s : List Char) : List Char :=
  if s.getLast? = some '\n' then s.dropLast else s

/-- A calendar fault as a fault of the document. -/
def onCalendar {α : Type} (r : Except Calendar.Fault α) : Except Fault α :=
  r.mapError .calendar

/-- The value of a timestamp; its offset is checked first. -/
def timestampValue (t : Timestamp) : Except Fault Atom :=
  match t.time with
  | none => do return .date (← onCalendar (Calendar.Date.of? t.year t.month t.day))
  | some time => do
      let offset ←
        match time.offset with
        | none => pure none
        | some minutes => some <$> onCalendar (Calendar.Offset.of? minutes)
      return .moment (← onCalendar (Calendar.Moment.of? t.year t.month t.day time.hour time.minute
        time.second (Timestamp.microseconds time.fraction) offset))

/-- The value of a scalar of a type. -/
def scalarValue (tag : Tag) (body : Body) (text : List Letter) : Except Fault Atom :=
  match tag with
  | .null => .ok .null
  | .text => .ok (.text text)
  | .truth =>
      let word := Letter.lower text
      match Tag.truthWords.find? (fun w => Letter.ofChars w.1.toList == word) with
      | some (_, b) => .ok (.truth b)
      | none => .error (.unknownTruth word)
  | .integer => .integer <$> Number.integer text
  | .real => return (← Number.real text).elim .undefined .real
  | .binary =>
      match Base64.decode? (Letter.seen text) with
      | some bytes => .ok (.bytes bytes)
      | none => .error .malformed
  | .timestamp =>
      match body with
      | .scalar text =>
          match Timestamp.ofText? (withoutFinalBreak (Letter.seen text)) with
          | some t => timestampValue t
          | none => .error .notTimestamp
      | _ => .error .mappingAsTimestamp
  | _ => .error .malformed

/-! ## Containers -/

def put (id : Nat) (v : Value) : Build Unit :=
  modify (fun s => { s with values := s.values.modify id (fun _ => some v) })

/-- Finds the value of a node, of a container without its parts. -/
def meet (id : Nat) : Build Unit := do
  let s ← get
  if (s.values[id]?.bind (fun v => v)).isSome then return
  let n ← nodeAt id
  let wait (v : Value) : Build Unit := do
    put id v
    modify (fun s => { s with waiting := s.waiting ++ [id] })
  match n.tag with
  | .sequence => wait (.list [])
  | .mapping => wait (.mapping [])
  | .set => wait (.set [])
  | .pairs => wait (.list [])
  | .merge => throw .malformed
  | .default => throw .malformed
  | .unknown => throw .malformed
  | tag => do
      let text ← scalarText (s.nodes.size + 1) id
      put id (.atom (← (scalarValue tag n.body text : Except Fault Atom)))

/-- The entries of the mappings that a merge key names, those of later ones in front. -/
def mergedEntries (flatten : Nat → Build Unit) (id : Nat) : Build (List (Nat × Nat)) := do
  let entriesOf (id : Nat) : Build (List (Nat × Nat)) := do
    match (← nodeAt id).body with
    | .mapping _ => do
        flatten id
        match (← nodeAt id).body with
        | .mapping entries => return entries
        | _ => throw .malformed
    | _ => throw .malformed
  match (← nodeAt id).body with
  | .sequence items => return (← items.mapM entriesOf).reverse.flatten
  | _ => entriesOf id

/-- Resolves merge keys: `done` holds the entries in front, and `merged` those of such keys. -/
def resolve (flatten : Nat → Build Unit) (id : Nat) (done merged : List (Nat × Nat)) :
    List (Nat × Nat) → Build Unit
  | [] =>
      modify (fun s => { s with
        nodes := s.nodes.modify id (fun n => { n with body := .mapping (merged ++ done) }) })
  | (key, value) :: rest => do
      match (← nodeAt key).tag with
      | .merge => do
          modify (fun s => { s with
            nodes := s.nodes.modify id (fun n => { n with body := .mapping (done ++ rest) }) })
          let more ← mergedEntries flatten value
          resolve flatten id done (merged ++ more) rest
      | .default => do
          modify (fun s => { s with
            nodes := s.nodes.modify key (fun n => { n with tag := .text }) })
          resolve flatten id (done ++ [(key, value)]) merged rest
      | _ => resolve flatten id (done ++ [(key, value)]) merged rest

/-- The entries of a mapping without merge keys, behind the merged ones. -/
def flatten : (fuel : Nat) → Nat → Build Unit
  | 0, _ => throw .malformed
  | fuel + 1, id => do
      match (← nodeAt id).body with
      | .mapping entries => resolve (flatten fuel) id [] [] entries
      | _ => throw .malformed

/-- The value of a node that must be a key. -/
def keyOf (id : Nat) : Build Atom := do
  meet id
  match (← get).values[id]? with
  | some (some (.atom a)) => return a
  | _ => throw .malformed

/-- An entry: the place of its key, the key, and the place of its value. -/
structure Entry where
  place : Nat
  key : Atom
  value : Nat

/-- Whether an entry has the key of another. -/
def Entry.agrees (e f : Entry) : Bool :=
  e.place == f.place || e.key.sameKey f.key

/-- An entry added to a mapping: a key that is there takes the new value. -/
def putEntry (entries : List Entry) (e : Entry) : List Entry :=
  if entries.any (fun f => f.agrees e) then
    entries.map (fun f => if f.agrees e then { f with value := e.value } else f)
  else entries ++ [e]

def mappingEntries (id : Nat) : Build (List Entry) := do
  match (← nodeAt id).body with
  | .mapping _ => flatten ((← get).nodes.size + 1) id
  | _ => throw .malformed
  match (← nodeAt id).body with
  | .mapping entries =>
      entries.foldlM (fun found (e : Nat × Nat) => do
        let key ← keyOf e.1
        meet e.2
        return putEntry found ⟨e.1, key, e.2⟩) []
  | _ => throw .malformed

/-- A new value that is no node's, and its place. -/
def addValue (v : Value) : Build Nat := do
  let s ← get
  set { s with values := s.values.push (some v) }
  return s.values.size

/-- The pairs of a sequence of mappings with one entry each. -/
def pairs (id : Nat) : Build (List Nat) := do
  match (← nodeAt id).body with
  | .sequence items =>
      items.mapM (fun item => do
        match (← nodeAt item).body with
        | .mapping [(key, value)] => do
            meet key
            meet value
            addValue (.pair key value)
        | _ => throw .malformed)
  | _ => throw .malformed

/-- Finds the parts of a container that has been met. -/
def complete (id : Nat) : Build Unit := do
  let n ← nodeAt id
  let v ←
    match n.tag with
    | .sequence => do
        match n.body with
        | .sequence items => do
            items.forM meet
            pure (Value.list items)
        | _ => throw .malformed
    | .set => do pure (Value.set ((← mappingEntries id).map (·.key)))
    | .pairs => do pure (Value.list (← pairs id))
    | _ => do pure (Value.mapping ((← mappingEntries id).map (fun e => (e.key, e.value))))
  put id v

/-- Completes the containers that wait. -/
def completeAll : (fuel : Nat) → Build Unit
  | 0 => return
  | fuel + 1 => do
      match (← get).waiting with
      | [] => return
      | id :: rest => do
          modify (fun s => { s with waiting := rest })
          complete id
          completeAll fuel

/-! ## Documents -/

/-- The values of a graph. -/
def ofGraph (g : Graph) : Except Fault Document :=
  match g.root with
  | none => .ok ⟨#[], none⟩
  | some root => do
      let start : State := ⟨g.nodes, Array.replicate g.nodes.size none, []⟩
      let (_, s) ← (do meet root; completeAll (g.nodes.size + 1) : Build Unit).run start
      return ⟨s.values.map (·.getD (.atom .null)), root⟩

/-- The values of the only document of a text. -/
def ofText (text : String) : Except Fault Document := do
  ofGraph (← Graph.ofText text.toList)

end Document
end Yaml
end Killswitch
