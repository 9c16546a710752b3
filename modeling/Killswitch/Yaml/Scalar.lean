import Killswitch.Text.Hex
import Killswitch.Yaml.Cursor
import Killswitch.Yaml.Fault

/-!
# Scalars

The text of a scalar as it stands in a document: plain, between quotes, or as a block of lines.

**Folding.** A single line break between two lines of text becomes a space; of several breaks the
first one is dropped. The two rare breaks of Unicode stay as they are.

**Contents.**
* `plain`: a scalar without quotes, which ends where an indicator or a comment starts;
* `quoted`: a scalar between single or double quotes;
* `block`: literal and folded blocks.
-/

namespace Killswitch
namespace Yaml
namespace Scalar

/-- What folding makes of a line break and the empty lines after it. -/
def fold (lineBreak breaks : List Char) : List Char :=
  (if lineBreak ≠ ['\n'] then lineBreak else if breaks = [] then [' '] else []) ++ breaks

/-- A part of a scalar: its text and the position after it. -/
structure Part (α : Type) where
  text : List α
  after : Cursor

/-! ## Plain scalars -/

/-- Whether a colon ends a plain scalar. -/
def colonEnds (inFlow : Bool) (following : Char) : Bool :=
  endsIndicator following || (inFlow && [',', '[', ']', '{', '}'].contains following)

/-- The length of a run of a plain scalar without gaps. -/
def plainRun (inFlow : Bool) : List Char → Nat
  | [] => 0
  | c :: rest =>
      if endsIndicator c || (c == ':' && colonEnds inFlow (rest.headD endMark))
          || (inFlow && [',', '?', '[', ']', '{', '}'].contains c) then 0
      else plainRun inFlow rest + 1

/-- Breaks and spaces after a line break; nothing in front of a document marker. -/
def plainBreaks : (fuel : Nat) → Cursor → Option (Part Char)
  | 0, c => some ⟨[], c⟩
  | fuel + 1, c =>
      if c.head == ' ' then plainBreaks fuel c.next
      else
        match c.lineBreak with
        | ([], _) => some ⟨[], c⟩
        | (lineBreak, after) =>
            if after.atMarker then none
            else (plainBreaks fuel after).map (fun p => ⟨lineBreak ++ p.text, p.after⟩)

/-- The gap after a run, the position after it, and whether it has a line break. -/
def plainGap (c : Cursor) : Part Char × Bool :=
  let (spaces, c) := c.span (· == ' ')
  match c.lineBreak with
  | ([], _) => (⟨spaces, c⟩, false)
  | (lineBreak, after) =>
      if after.atMarker then (⟨[], after⟩, true)
      else
        match plainBreaks after.rest.length after with
        | none => (⟨[], after⟩, true)
        | some breaks => (⟨fold lineBreak breaks.text, breaks.after⟩, true)

/-- The runs and gaps of a plain scalar; `gap` is the gap before the next run. -/
def plainRuns (inFlow : Bool) (indent : Int) :
    (fuel : Nat) → (gap : List Char) → (broken : Bool) → Cursor → Part Char × Bool
  | 0, _, broken, c => (⟨[], c⟩, broken)
  | fuel + 1, gap, broken, c =>
      let length := if c.head == '#' then 0 else plainRun inFlow c.rest
      if length = 0 then (⟨[], c⟩, broken)
      else
        let run := gap ++ c.rest.take length
        let (space, brokenNow) := plainGap (c.advance length)
        let ends := space.text.isEmpty || space.after.head == '#'
          || (!inFlow && decide ((space.after.column : Int) < indent))
        if ends then (⟨run, space.after⟩, brokenNow)
        else
          let (more, brokenLater) := plainRuns inFlow indent fuel space.text brokenNow space.after
          (⟨run ++ more.text, more.after⟩, brokenLater)

/-- A plain scalar, and whether a line break follows it. Its lines must be indented by `indent`. -/
def plain (inFlow : Bool) (indent : Int) (c : Cursor) : Part Char × Bool :=
  plainRuns inFlow indent (c.rest.length + 1) [] false c

/-! ## Quoted scalars -/

/-- The character that stands for an escape of one letter. -/
def escape? (c : Char) : Option Char :=
  match c with
  | '0' => some '\x00'
  | 'a' => some '\x07'
  | 'b' => some '\x08'
  | 't' => some '\t'
  | '\t' => some '\t'
  | 'n' => some '\n'
  | 'v' => some '\x0b'
  | 'f' => some '\x0c'
  | 'r' => some '\r'
  | 'e' => some '\x1b'
  | ' ' => some ' '
  | '"' => some '"'
  | '\\' => some '\\'
  | '/' => some '/'
  | 'N' => some '\x85'
  | '_' => some '\xa0'
  | 'L' => some '\u2028'
  | 'P' => some '\u2029'
  | _ => none

/-- How many hexadecimal digits an escape letter takes. -/
def escapeWidth? (c : Char) : Option Nat :=
  match c with
  | 'x' => some 2
  | 'u' => some 4
  | 'U' => some 8
  | _ => none

/-- The letter with a number, which must be in range. -/
def letterOfNumber (n : Nat) : Except Fault Letter :=
  if 0x80000000 ≤ n then .error .characterNumber
  else
    match Letter.ofNumber? n with
    | some x => .ok x
    | none => .error .characterRange

/-- Breaks and blanks after a line break between quotes; no document marker must stand there. -/
def quotedBreaks : (fuel : Nat) → Cursor → Except Fault (Part Char)
  | 0, _ => .error .malformed
  | fuel + 1, c =>
      if c.atMarker then .error .malformed
      else
        let c := c.skip (fun x => x == ' ' || x == '\t')
        match c.lineBreak with
        | ([], _) => .ok ⟨[], c⟩
        | (lineBreak, after) => do
            let more ← quotedBreaks fuel after
            return ⟨lineBreak ++ more.text, more.after⟩

def Part.letters (p : Part Char) : Part Letter :=
  ⟨Letter.ofChars p.text, p.after⟩

/-- An escape between double quotes, from after the backslash. -/
def escaped (c : Cursor) : Except Fault (Part Letter) :=
  match escape? c.head, escapeWidth? c.head with
  | some x, _ => .ok ⟨[.char x], c.next⟩
  | none, some width => do
      let digits := c.next.rest.take width
      match Text.hexNumber? digits with
      | none => .error .malformed
      | some n =>
          if digits.length < width then .error .malformed
          else return ⟨[← letterOfNumber n], c.next.advance width⟩
  | none, none =>
      match c.lineBreak with
      | ([], _) => .error .malformed
      | (_, after) => Part.letters <$> quotedBreaks (after.rest.length + 1) after

/-- A gap between quotes: blanks are kept, line breaks are folded. -/
def quotedGap (c : Cursor) : Except Fault (Part Char) :=
  let (spaces, c) := c.span (fun x => x == ' ' || x == '\t')
  if c.rest.isEmpty then .error .malformed
  else
    match c.lineBreak with
    | ([], _) => .ok ⟨spaces, c⟩
    | (lineBreak, after) => do
        let breaks ← quotedBreaks (after.rest.length + 1) after
        return ⟨fold lineBreak breaks.text, breaks.after⟩

/-- The inside of a quoted scalar, with the closing quote. -/
def quotedInside (double : Bool) : (fuel : Nat) → Cursor → Except Fault (Part Letter)
  | 0, _ => .error .malformed
  | fuel + 1, c => do
      let x := c.head
      let continueWith (part : Part Letter) : Except Fault (Part Letter) := do
        let more ← quotedInside double fuel part.after
        return ⟨part.text ++ more.text, more.after⟩
      if !double && x == '\'' && c.peek 1 == '\'' then continueWith ⟨[.char '\''], c.advance 2⟩
      else if x == (if double then '"' else '\'') then return ⟨[], c.next⟩
      else if double && x == '\\' then continueWith (← escaped c.next)
      else if endsIndicator x then continueWith (← quotedGap c).letters
      else continueWith ⟨[.char x], c.next⟩

/-- A scalar between quotes, from the opening quote on. -/
def quoted (double : Bool) (c : Cursor) : Except Fault (Part Letter) :=
  quotedInside double (c.rest.length + 1) c.next

/-! ## Block scalars -/

/-- What becomes of the line breaks at the end of a block: one, none or all are kept. -/
inductive Chomping where
  | clip
  | strip
  | keep
  deriving DecidableEq, Repr

def chomping? (c : Cursor) : Option Chomping :=
  if c.head == '+' then some .keep else if c.head == '-' then some .strip else none

/-- The indentation indicator, a digit that is not zero. -/
def increment? (c : Cursor) : Except Fault (Option Nat) :=
  if c.head.isDigit then
    if c.head == '0' then .error .malformed else .ok (some (c.head.toNat - 48))
  else .ok none

/-- The indicators after the mark of a block, in either order. -/
def blockHeader (c : Cursor) : Except Fault (Chomping × Option Nat × Cursor) := do
  let (chomping, increment, c) ←
    match chomping? c with
    | some chomping => do
        let increment ← increment? c.next
        pure (chomping, increment, if increment.isSome then c.next.next else c.next)
    | none => do
        let increment ← increment? c
        let c := if increment.isSome then c.next else c
        match increment, chomping? c with
        | some _, some chomping => pure (chomping, increment, c.next)
        | _, _ => pure (Chomping.clip, increment, c)
  if endsWord c.head then return (chomping, increment, c) else .error .malformed

/-- The rest of a line, nothing but spaces and a comment. -/
def restOfLine (c : Cursor) : Except Fault Cursor :=
  let c := c.skip (· == ' ')
  let c := if c.head == '#' then c.skip (fun x => !endsLine x) else c
  if endsLine c.head then .ok c.lineBreak.2 else .error .malformed

/-- The empty lines at the start of a block, and the deepest column reached in them. -/
def leadingLines : (fuel : Nat) → (deepest : Nat) → Cursor → Part Char × Nat
  | 0, deepest, c => (⟨[], c⟩, deepest)
  | fuel + 1, deepest, c =>
      if c.head == ' ' then leadingLines fuel (max deepest c.next.column) c.next
      else
        match c.lineBreak with
        | ([], _) => (⟨[], c⟩, deepest)
        | (lineBreak, after) =>
            let (more, deepest) := leadingLines fuel deepest after
            (⟨lineBreak ++ more.text, more.after⟩, deepest)

/-- The empty lines between two lines of a block. -/
def emptyLines (indent : Nat) : (fuel : Nat) → Cursor → Part Char
  | 0, c => ⟨[], c⟩
  | fuel + 1, c =>
      let c := c.skipSpaces (indent - c.column)
      match c.lineBreak with
      | ([], _) => ⟨[], c⟩
      | (lineBreak, after) =>
          let more := emptyLines indent fuel after
          ⟨lineBreak ++ more.text, more.after⟩

/-- What stands between two lines of a block: a folded break, unless one is indented further. -/
def blockGap (folded : Bool) (lineBreak : List Char) (starts follows : Char) (breaks : List Char) :
    List Char :=
  let isSpace (c : Char) : Bool := c == ' ' || c == '\t'
  if folded && lineBreak == ['\n'] && !isSpace starts && !isSpace follows then
    if breaks = [] then [' '] else []
  else lineBreak

/-- The lines of a block, its last break, the empty lines after it, and the position after them. -/
def blockLines (folded : Bool) (indent : Nat) :
    (fuel : Nat) → (breaks : List Char) → Cursor → List Char × List Char × Part Char
  | 0, breaks, c => ([], [], ⟨breaks, c⟩)
  | fuel + 1, breaks, c =>
      if c.column ≠ indent ∨ c.rest = [] then ([], [], ⟨breaks, c⟩)
      else
        let starts := c.head
        let (line, c) := c.span (fun x => !endsLine x)
        let (lineBreak, c) := c.lineBreak
        let next := emptyLines indent (c.rest.length + 1) c
        if next.after.column = indent ∧ next.after.rest ≠ [] then
          let gap := blockGap folded lineBreak starts next.after.head next.text
          let (text, last, tail) := blockLines folded indent fuel next.text next.after
          (breaks ++ line ++ gap ++ text, last, tail)
        else (breaks ++ line, lineBreak, next)

def block (folded : Bool) (indent : Int) (c : Cursor) : Except Fault (Part Char) := do
  let (chomping, increment, c) ← blockHeader c.next
  let c ← restOfLine c
  let least := max 1 (indent + 1).toNat
  let (column, start) :=
    match increment with
    | none =>
        let (start, deepest) := leadingLines c.rest.length 0 c
        (max least deepest, start)
    | some n =>
        let column := least + n - 1
        (column, emptyLines column (c.rest.length + 1) c)
  let (text, last, tail) := blockLines folded column (c.rest.length + 1) start.text start.after
  let ending :=
    match chomping with
    | .strip => []
    | .clip => last
    | .keep => last ++ tail.text
  return ⟨text ++ ending, tail.after⟩

end Scalar
end Yaml
end Killswitch
