import Killswitch.Yaml.Property

/-!
# From characters to tokens

A document is read from left to right, one token at a time. Whether a word is a key is known only
when a colon follows it, so the lexer remembers, for every depth of brackets, where a key may have
started; when the colon comes, the tokens that announce the key go in front of what has been read
since. A key must end on the line on which it starts, within 1024 characters.

**Blocks.** Outside brackets, indentation opens and closes blocks: a deeper key or dash opens one, a
line that is less deep closes all that are deeper.

**Faults.** The tokens before a fault are kept, as far as no later colon could still change them.
-/

namespace Killswitch
namespace Yaml

/-- A place where a key may have started: the number of tokens before it and its position. -/
structure KeyPlace where
  required : Bool
  tokens : Nat
  index : Nat
  line : Nat
  column : Nat

/-- The state of reading: the position, the tokens, the depth of brackets, the indentations, and where
keys may have started. -/
structure Lexer where
  cursor : Cursor
  tokens : Array Token
  depth : Nat
  indent : Int
  outer : List Int
  keyAllowed : Bool
  places : List (Nat × KeyPlace)

namespace Lexer

def ofText (text : List Char) : Lexer :=
  ⟨Cursor.ofText text, #[], 0, -1, [], true, []⟩

def push (l : Lexer) (t : Token) : Lexer :=
  { l with tokens := l.tokens.push t }

/-- A token that takes `n` characters. -/
def pushMark (l : Lexer) (t : Token) (n : Nat) : Lexer :=
  { l with tokens := l.tokens.push t, cursor := l.cursor.advance n }

/-- A token behind the first `n`. -/
def insertAt (l : Lexer) (n : Nat) (t : Token) : Lexer :=
  { l with tokens := l.tokens.extract 0 n ++ #[t] ++ l.tokens.extract n l.tokens.size }

/-- Whether the position has left the line or the reach of a place. -/
def outOfReach (l : Lexer) (p : KeyPlace) : Bool :=
  p.line ≠ l.cursor.line || l.cursor.index - p.index > 1024

/-- Forgets the places that are out of reach. -/
def dropStale (l : Lexer) : Except Fault Lexer :=
  if l.places.any (fun p => l.outOfReach p.2 && p.2.required) then .error .malformed
  else .ok { l with places := l.places.filter (fun p => !l.outOfReach p.2) }

/-- The place of a key at the present depth. -/
def place? (l : Lexer) : Option KeyPlace :=
  (l.places.find? (fun p => p.1 == l.depth)).map (·.2)

/-- Forgets the place at the present depth. -/
def withoutPlace (l : Lexer) : Lexer :=
  { l with places := l.places.filter (fun p => p.1 != l.depth) }

/-- Gives up a place that must not have been required. -/
def giveUpPlace (l : Lexer) : Except Fault Lexer :=
  if l.place?.any (·.required) then .error .malformed else .ok l.withoutPlace

/-- Notes that a key may start here. -/
def notePlace (l : Lexer) : Except Fault Lexer :=
  if l.keyAllowed then do
    let required := l.depth == 0 && l.indent == (l.cursor.column : Int)
    let l ← l.giveUpPlace
    let p : KeyPlace := ⟨required, l.tokens.size, l.cursor.index, l.cursor.line, l.cursor.column⟩
    return { l with places := (l.depth, p) :: l.places }
  else .ok l

/-- Closes the blocks deeper than a column, innermost first. -/
def closeBlocks (column : Int) : List Int → Lexer → Lexer
  | [], l => l
  | around :: outer, l =>
      if column < l.indent then
        closeBlocks column outer { l.push .blockEnd with indent := around, outer := outer }
      else l

/-- Closes the blocks deeper than a column, outside of brackets. -/
def unwind (l : Lexer) (column : Int) : Lexer :=
  if l.depth = 0 then closeBlocks column l.outer l else l

/-- Whether a column is deeper than the innermost block. -/
def isDeeper (l : Lexer) (column : Nat) : Bool :=
  decide (l.indent < (column : Int))

/-- A block at a column around what follows. -/
def indented (l : Lexer) (column : Nat) : Lexer :=
  { l with indent := column, outer := l.indent :: l.outer }

/-- Opens a block that is deeper than the innermost one. -/
def openBlock (l : Lexer) (t : Token) : Lexer :=
  if l.isDeeper l.cursor.column then (l.push t).indented l.cursor.column else l

/-- Passes spaces, comments and line breaks; outside brackets a line break allows a key. -/
def skipGap : (fuel : Nat) → Lexer → Lexer
  | 0, l => l
  | fuel + 1, l =>
      let c := l.cursor.skip (· == ' ')
      let c := if c.head == '#' then c.skip (fun x => !endsLine x) else c
      match c.lineBreak with
      | ([], _) => { l with cursor := c }
      | (_, after) =>
          skipGap fuel { l with cursor := after, keyAllowed := l.keyAllowed || l.depth == 0 }

/-- Passes the byte order mark as well. -/
def skipToToken (l : Lexer) : Lexer :=
  let l :=
    if l.cursor.index = 0 ∧ l.cursor.head = '\uFEFF' then { l with cursor := l.cursor.next } else l
  skipGap (l.cursor.rest.length + 1) l

/-! ## The tokens -/

/-- A directive or a document marker, which closes all blocks. -/
def atDocument (l : Lexer) : Except Fault Lexer := do
  let l ← (l.unwind (-1)).giveUpPlace
  return { l with keyAllowed := false }

def finish (l : Lexer) : Except Fault Lexer := do
  let l ← l.atDocument
  return { l.push .streamEnd with places := [] }

/-- An opening bracket, which may start a key. -/
def openBracket (l : Lexer) (t : Token) : Except Fault Lexer := do
  let l ← l.notePlace
  return { l.pushMark t 1 with depth := l.depth + 1, keyAllowed := true }

/-- A closing bracket. -/
def closeBracket (l : Lexer) (t : Token) : Except Fault Lexer := do
  if l.depth = 0 then throw .malformed
  let l ← l.giveUpPlace
  return { l.pushMark t 1 with depth := l.depth - 1, keyAllowed := false }

def flowEntry (l : Lexer) : Except Fault Lexer := do
  let l ← l.giveUpPlace
  return { l.pushMark .flowEntry 1 with keyAllowed := true }

/-- The dash of a sequence entry. -/
def blockEntry (l : Lexer) : Except Fault Lexer := do
  if l.depth = 0 && !l.keyAllowed then throw .malformed
  let l := if l.depth = 0 then l.openBlock .blockSequenceStart else l
  let l ← l.giveUpPlace
  return { l.pushMark .blockEntry 1 with keyAllowed := true }

/-- The question mark of an explicit key. -/
def explicitKey (l : Lexer) : Except Fault Lexer := do
  if l.depth = 0 && !l.keyAllowed then throw .malformed
  let l := if l.depth = 0 then l.openBlock .blockMappingStart else l
  let l ← l.giveUpPlace
  return { l.pushMark .key 1 with keyAllowed := l.depth == 0 }

/-- The colon of a value, which makes a key of what may have started one. -/
def value (l : Lexer) : Except Fault Lexer := do
  match l.place? with
  | some p =>
      let l := l.withoutPlace.insertAt p.tokens .key
      let l :=
        if l.depth = 0 && l.isDeeper p.column then
          (l.insertAt p.tokens .blockMappingStart).indented p.column
        else l
      return { l.pushMark .value 1 with keyAllowed := false }
  | none =>
      if l.depth = 0 && !l.keyAllowed then throw .malformed
      let l := if l.depth = 0 then l.openBlock .blockMappingStart else l
      return { l.pushMark .value 1 with keyAllowed := l.depth == 0 }

/-- A token that a reader gives, where a key may start. -/
def word (l : Lexer) (read : Cursor → Except Fault (Token × Cursor)) : Except Fault Lexer := do
  let l ← l.notePlace
  let (t, after) ← read l.cursor
  return { l.push t with cursor := after, keyAllowed := false }

def quoted (l : Lexer) (double : Bool) : Except Fault Lexer :=
  l.word (fun c => do
    let part ← Scalar.quoted double c
    return (.scalar part.text false, part.after))

/-- A plain scalar; after its last line break a key may start. -/
def plain (l : Lexer) : Except Fault Lexer := do
  let l ← l.notePlace
  let (part, broken) := Scalar.plain (l.depth != 0) (l.indent + 1) l.cursor
  return { l.push (.scalar (Letter.ofChars part.text) true) with
    cursor := part.after, keyAllowed := broken }

def block (l : Lexer) (folded : Bool) : Except Fault Lexer := do
  let l ← l.giveUpPlace
  let part ← Scalar.block folded l.indent l.cursor
  return { l.push (.scalar (Letter.ofChars part.text) false) with
    cursor := part.after, keyAllowed := true }

/-- Whether a plain scalar can start at the position. -/
def startsPlain (l : Lexer) : Bool :=
  let x := l.cursor.head
  !(endsIndicator x || "-?:,[]\x7b\x7d#&*!|>'\"%@\x60".toList.contains x)
    || (!endsIndicator (l.cursor.peek 1)
      && (x == '-' || (l.depth == 0 && (x == '?' || x == ':'))))

def token (l : Lexer) : Except Fault Lexer :=
  let c := l.cursor
  let x := c.head
  let alone := endsIndicator (c.peek 1)
  if c.rest.isEmpty then l.finish
  else if x == '%' && c.column == 0 then do
    let l ← l.atDocument
    let (d, after) ← Property.directive c
    return { l.push (.directive d) with cursor := after }
  else if x == '-' && c.column == 0 && c.atMarker then do
    return (← l.atDocument).pushMark .documentStart 3
  else if x == '.' && c.column == 0 && c.atMarker then do
    return (← l.atDocument).pushMark .documentEnd 3
  else if x == '[' then l.openBracket .flowSequenceStart
  else if x == '{' then l.openBracket .flowMappingStart
  else if x == ']' then l.closeBracket .flowSequenceEnd
  else if x == '}' then l.closeBracket .flowMappingEnd
  else if x == ',' then l.flowEntry
  else if x == '-' && alone then l.blockEntry
  else if x == '?' && (l.depth != 0 || alone) then l.explicitKey
  else if x == ':' && (l.depth != 0 || alone) then l.value
  else if x == '*' then
    l.word (fun c => (fun (name, after) => (.reference name, after)) <$> Property.anchorName c)
  else if x == '&' then
    l.word (fun c => (fun (name, after) => (.anchor name, after)) <$> Property.anchorName c)
  else if x == '!' then
    l.word (fun c => (fun (text, after) => (.tag text, after)) <$> Property.tag c)
  else if x == '|' && l.depth == 0 then l.block false
  else if x == '>' && l.depth == 0 then l.block true
  else if x == '\'' then l.quoted false
  else if x == '"' then l.quoted true
  else if l.startsPlain then l.plain
  else .error .malformed

/-- The next token, after the gap in front of it. -/
def step (l : Lexer) : Except Fault Lexer := do
  let l ← l.skipToToken.dropStale
  (l.unwind l.cursor.column).token

/-- The tokens that no later colon can change. -/
def settled (l : Lexer) : List Token :=
  let live := l.places.filter (fun p => !l.outOfReach p.2)
  l.tokens.toList.take (live.foldl (fun n p => min n p.2.tokens) l.tokens.size)

/-- All tokens up to the end of the text or the first fault. -/
def run : (fuel : Nat) → Lexer → List Token × Option Fault
  | 0, l => (l.settled, some .malformed)
  | fuel + 1, l =>
      match l.step with
      | .error fault => (l.settled, some fault)
      | .ok next =>
          if next.tokens.back? = some .streamEnd then (next.tokens.toList, none) else run fuel next

end Lexer

/-- The tokens of a text, and the fault that ends them early if there is one. -/
def Token.ofText (text : List Char) : List Token × Option Fault :=
  if text.all isDocumentChar then Lexer.run (text.length + 2) (Lexer.ofText text)
  else ([], some .malformed)

end Yaml
end Killswitch
