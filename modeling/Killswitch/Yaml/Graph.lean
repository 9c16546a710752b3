import Killswitch.Yaml.Lexer
import Killswitch.Yaml.Tag

/-!
# The graph of a document

Tokens are put together into nodes: scalars, sequences and mappings. A reference to an anchor is the
anchored node itself, so the nodes form a graph, which may have cycles; they are kept in a table and
named by their place in it.

**Contents.**
* `Node` and `Graph`: the table of nodes and the root, if the document has one;
* `Graph.ofText`: the one document of a text.
-/

namespace Killswitch
namespace Yaml

/-- What a node holds: a text, or the places of other nodes. -/
inductive Body where
  | scalar (text : List Letter)
  | sequence (items : List Nat)
  | mapping (entries : List (Nat × Nat))
  deriving DecidableEq, Repr

/-- A node: its type and what it holds. -/
structure Node where
  tag : Tag
  body : Body
  deriving DecidableEq, Repr

/-- The nodes of a document, and the place of its root. -/
structure Graph where
  nodes : Array Node
  root : Option Nat
  deriving Repr

/-- The state of putting a document together. `fault` comes after the tokens. -/
structure Assembly where
  tokens : List Token
  fault : Fault
  nodes : Array Node
  anchors : List (String × Nat)
  handles : List (String × String)

/-- A step of putting a document together. -/
abbrev Assemble := StateT Assembly (Except Fault)

namespace Assemble

def peek : Assemble Token := do
  let s ← get
  match s.tokens with
  | t :: _ => return t
  | [] => throw s.fault

def skip : Assemble Unit :=
  modify (fun s => { s with tokens := s.tokens.drop 1 })

def add (n : Node) : Assemble Nat := do
  let s ← get
  set { s with nodes := s.nodes.push n }
  return s.nodes.size

/-- A new node, which an anchor may name. -/
def addAnchored (anchor : Option String) (n : Node) : Assemble Nat := do
  let id ← add n
  match anchor with
  | none => return id
  | some name => do
      modify (fun s => { s with anchors := (name, id) :: s.anchors })
      return id

/-- What a node holds, once it is known. -/
def fill (id : Nat) (body : Body) : Assemble Unit :=
  modify (fun s => { s with nodes := s.nodes.modify id (fun n => { n with body := body }) })

/-- The node of a value that is left out. -/
def absent : Assemble Nat :=
  add ⟨.null, .scalar []⟩

/-! ## Properties of nodes -/

/-- The declared type of a node: none, the lone mark, or a tag. -/
inductive Declared where
  | nothing
  | mark
  | tag (t : Tag)

/-- The declared type that a written tag means. -/
def declared (t : TagText) : Assemble Declared := do
  let address ←
    match t.handle with
    | none => pure t.suffix
    | some handle => do
        match (← get).handles.lookup handle with
        | some expansion => pure (expansion ++ t.suffix)
        | none => throw .malformed
  return if address = "!" then .mark else .tag (Tag.ofAddress address)

/-- The anchor and the declared type of a node, in either order. -/
def properties : Assemble (Option String × Declared) := do
  match ← peek with
  | .anchor name => do
      skip
      match ← peek with
      | .tag t => do
          skip
          return (some name, ← declared t)
      | _ => return (some name, .nothing)
  | .tag t => do
      skip
      match ← peek with
      | .anchor name => do
          skip
          return (some name, ← declared t)
      | _ => return (none, ← declared t)
  | _ => return (none, .nothing)

/-- The type of a scalar; the lone mark asks for that of its text. -/
def scalarTag (d : Declared) (text : List Letter) (plain : Bool) : Tag :=
  match d with
  | .tag t => t
  | .mark => Tag.ofPlain (Letter.seen text)
  | .nothing => if plain then Tag.ofPlain (Letter.seen text) else .text

def collectionTag (d : Declared) (usual : Tag) : Tag :=
  match d with
  | .tag t => t
  | _ => usual

/-! ## Nodes -/

/-- Whether a token ends a part of a block mapping. -/
def endsBlockPart : Token → Bool
  | .key => true
  | .value => true
  | .blockEnd => true
  | _ => false

mutual

/-- The node at the next token. Under a key, a sequence need not be indented. -/
def node (block indentless : Bool) : (fuel : Nat) → Assemble Nat
  | 0 => throw .malformed
  | fuel + 1 => do
      match ← peek with
      | .reference name => do
          skip
          match (← get).anchors.lookup name with
          | some id => return id
          | none => throw .malformed
      | _ => do
          let (anchor, d) ← properties
          let t ← peek
          let known := (← get).anchors
          if anchor.any (fun name => (known.lookup name).isSome) then throw .malformed
          let collect (usual : Tag) (empty : Body) (parts : Assemble Body) : Assemble Nat := do
            let id ← addAnchored anchor ⟨collectionTag d usual, empty⟩
            fill id (← parts)
            return id
          match t with
          | .scalar text plain => do
              skip
              addAnchored anchor ⟨scalarTag d text plain, .scalar text⟩
          | .flowSequenceStart => do
              skip
              collect .sequence (.sequence []) (.sequence <$> flowItems true fuel)
          | .flowMappingStart => do
              skip
              collect .mapping (.mapping []) (.mapping <$> flowEntries true fuel)
          | _ =>
              if indentless && t = .blockEntry then
                collect .sequence (.sequence []) (.sequence <$> indentlessItems fuel)
              else if block && t = .blockSequenceStart then do
                skip
                collect .sequence (.sequence []) (.sequence <$> blockItems fuel)
              else if block && t = .blockMappingStart then do
                skip
                collect .mapping (.mapping []) (.mapping <$> blockEntries fuel)
              else
                match anchor, d with
                | none, .nothing => throw .malformed
                | _, _ => addAnchored anchor ⟨scalarTag d [] true, .scalar []⟩

/-- The items of an indented block sequence. -/
def blockItems : (fuel : Nat) → Assemble (List Nat)
  | 0 => throw .malformed
  | fuel + 1 => do
      match ← peek with
      | .blockEntry => do
          skip
          let t ← peek
          let item ←
            if t = .blockEntry ∨ t = .blockEnd then absent else node true false fuel
          return item :: (← blockItems fuel)
      | .blockEnd => do
          skip
          return []
      | _ => throw .malformed

/-- The items of a block sequence that is not indented. -/
def indentlessItems : (fuel : Nat) → Assemble (List Nat)
  | 0 => throw .malformed
  | fuel + 1 => do
      match ← peek with
      | .blockEntry => do
          skip
          let t ← peek
          let item ←
            if t = .blockEntry || endsBlockPart t then absent else node true false fuel
          return item :: (← indentlessItems fuel)
      | _ => return []

/-- The entries of a block mapping. -/
def blockEntries : (fuel : Nat) → Assemble (List (Nat × Nat))
  | 0 => throw .malformed
  | fuel + 1 => do
      match ← peek with
      | .key => do
          skip
          let key ← blockPart fuel
          let value ←
            if (← peek) = .value then do
              skip
              blockPart fuel
            else absent
          return (key, value) :: (← blockEntries fuel)
      | .blockEnd => do
          skip
          return []
      | _ => throw .malformed

/-- The key or the value of an entry, which may be left out. -/
def blockPart : (fuel : Nat) → Assemble Nat
  | 0 => throw .malformed
  | fuel + 1 => do
      if endsBlockPart (← peek) then absent else node true true fuel

/-- The items between brackets; one may be a mapping of one entry without braces. -/
def flowItems (first : Bool) : (fuel : Nat) → Assemble (List Nat)
  | 0 => throw .malformed
  | fuel + 1 => do
      if (← peek) = .flowSequenceEnd then do
        skip
        return []
      if !first then do
        if (← peek) = .flowEntry then skip else throw .malformed
      match ← peek with
      | .flowSequenceEnd => do
          skip
          return []
      | .key => do
          skip
          let id ← add ⟨.mapping, .mapping []⟩
          let key ← flowPart .flowSequenceEnd fuel
          let value ← flowValue .flowSequenceEnd fuel
          fill id (.mapping [(key, value)])
          return id :: (← flowItems false fuel)
      | _ => do
          let item ← node false false fuel
          return item :: (← flowItems false fuel)

/-- The entries between braces. -/
def flowEntries (first : Bool) : (fuel : Nat) → Assemble (List (Nat × Nat))
  | 0 => throw .malformed
  | fuel + 1 => do
      if (← peek) = .flowMappingEnd then do
        skip
        return []
      if !first then do
        if (← peek) = .flowEntry then skip else throw .malformed
      match ← peek with
      | .flowMappingEnd => do
          skip
          return []
      | .key => do
          skip
          let key ← flowPart .flowMappingEnd fuel
          let value ← flowValue .flowMappingEnd fuel
          return (key, value) :: (← flowEntries false fuel)
      | _ => do
          let key ← node false false fuel
          let value ← absent
          return (key, value) :: (← flowEntries false fuel)

/-- The value of an entry between brackets, if a colon announces one. -/
def flowValue (closing : Token) : (fuel : Nat) → Assemble Nat
  | 0 => throw .malformed
  | fuel + 1 => do
      if (← peek) = .value then do
        skip
        let t ← peek
        if t = .flowEntry ∨ t = closing then absent else node false false fuel
      else absent

/-- The key of an entry between brackets, which may be left out. -/
def flowPart (closing : Token) : (fuel : Nat) → Assemble Nat
  | 0 => throw .malformed
  | fuel + 1 => do
      let t ← peek
      if t = .value ∨ t = .flowEntry ∨ t = closing then absent else node false false fuel

end

/-! ## Documents -/

/-- The tag handles that every document knows. -/
def usualHandles : List (String × String) :=
  [("!", "!"), ("!!", "tag:yaml.org,2002:")]

/-- The directives in front of a document: at most one version, and different handles. -/
def directives : (fuel : Nat) → (versioned : Bool) → List (String × String) →
    Assemble (List (String × String))
  | 0, _, _ => throw .malformed
  | fuel + 1, versioned, handles => do
      match ← peek with
      | .directive (.version major _) =>
          if versioned || major != 1 then throw .malformed
          else do
            skip
            directives fuel true handles
      | .directive (.handle name expansion) =>
          if (handles.lookup name).isSome then throw .malformed
          else do
            skip
            directives fuel versioned ((name, expansion) :: handles)
      | .directive .other => do
          skip
          directives fuel versioned handles
      | _ => return handles

/-- Passes over marks for the end of a document. -/
def skipEnds : (fuel : Nat) → Assemble Unit
  | 0 => return
  | fuel + 1 => do
      if (← peek) = .documentEnd then do
        skip
        skipEnds fuel

/-- Whether a token leaves a document without a node. -/
def endsDocument : Token → Bool
  | .directive _ => true
  | .documentStart => true
  | .documentEnd => true
  | .streamEnd => true
  | _ => false

/-- The directives and the mark at the start of a document. -/
def documentMark (fuel : Nat) : Assemble Unit := do
  let handles ← directives fuel false []
  modify (fun s => { s with handles := handles ++ usualHandles })
  if (← peek) = .documentStart then skip else throw .malformed

/-- The root of a document with a mark for its start. -/
def markedDocument (fuel : Nat) : Assemble (Option Nat) := do
  documentMark fuel
  if endsDocument (← peek) then return some (← absent)
  else return some (← node true false fuel)

/-- The root of the only document of a text; a second one is refused at its mark. -/
def onlyDocument (fuel : Nat) : Assemble (Option Nat) := do
  let root ←
    match ← peek with
    | .directive _ => markedDocument fuel
    | .documentStart => markedDocument fuel
    | .streamEnd => pure none
    | _ => some <$> node true false fuel
  skipEnds fuel
  if (← peek) = .streamEnd then return root
  else do
    documentMark fuel
    throw .malformed

end Assemble

/-- The graph of the only document of a text. -/
def Graph.ofText (text : List Char) : Except Fault Graph := do
  let (tokens, fault) := Token.ofText text
  let start : Assembly :=
    ⟨tokens, fault.getD .malformed, #[], [], Assemble.usualHandles⟩
  let (root, s) ← (Assemble.onlyDocument (4 * tokens.length + 8)).run start
  return ⟨s.nodes, root⟩

end Yaml
end Killswitch
