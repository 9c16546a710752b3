import Killswitch.Expression.Number
import Killswitch.Expression.Token
import Killswitch.Text.Word

/-!
# Cutting expressions into pieces

The pieces of a text are found from left to right. Some faults of a piece are faults of the whole text,
even if it goes wrong before; others are faults only for one who asks for the piece. Inside of brackets
the ends of lines and the blanks in front of lines mean nothing.

**Contents.**
* `Cursor`: a place in a text, with its line, the brackets and the indentations that are open there;
* `Ending`: how the pieces of a text end;
* `Pieces`, `Pieces.ofText`: the pieces of a text and their end.
-/

namespace Killswitch
namespace Expression

/-! ## Places -/

/-- A place in a text; the open brackets come with their lines, the innermost one first. -/
structure Cursor where
  rest : List Char
  line : Nat
  opened : List (Char × Nat)
  indents : List Nat
  deriving Repr

namespace Cursor

def start (s : List Char) : Cursor :=
  ⟨s, 1, [], [0]⟩

/-- The place where some text is left. -/
def goTo (rest : List Char) (c : Cursor) : Cursor :=
  let passed := c.rest.take (c.rest.length - rest.length)
  let lines := passed.count '\n'
  let lines := if rest.isEmpty && passed.getLast? = some '\n' then lines - 1 else lines
  { c with rest := rest, line := c.line + lines }

/-- The piece from one place up to another. -/
def piece (symbol : Symbol) (rest : List Char) (c : Cursor) : Token × Cursor :=
  (⟨symbol, c.rest.take (c.rest.length - rest.length), c.line, c.opened.length⟩, c.goTo rest)

end Cursor

/-- How the pieces of a text end: with the text, with a fault of all of it, or with one of the next
piece, inside the bracket that was opened last. -/
inductive Ending where
  | finished
  | refused (f : Fault)
  | stopped (f : Fault) (bracket : Option (Char × Nat))
  deriving Repr

namespace Cursor

/-- The end of a text that must not end there. -/
def cutOff (c : Cursor) : Ending :=
  match c.opened with
  | [] => .stopped .unfinished none
  | b :: _ => .stopped (.unclosed b.1) (some b)

/-- The end for a fault of the next piece only. -/
def stopAt (f : Fault) (c : Cursor) : Ending :=
  .stopped f c.opened.head?

/-! ## Gaps -/

/-- The text after a backslash that ends a line. -/
def continued (rest : List Char) (c : Cursor) : Except Ending (List Char) :=
  match rest with
  | '\n' :: [] => .error c.cutOff
  | '\n' :: more => .ok more
  | _ => .error (c.stopAt .backslash)

/-- A text without the comment at its start. -/
def withoutComment (s : List Char) : List Char :=
  if s.head? = some '#' then s.dropWhile (· != '\n') else s

/-- The column that the blanks at its start reach, or their first backslash, and the text after them. -/
def indentation : (fuel column : Nat) → (kept : Option Nat) → (s : List Char) → Cursor →
    Except Ending (Nat × List Char)
  | 0, column, kept, s, _ => .ok (kept.getD column, s)
  | fuel + 1, column, kept, s, c =>
      match s with
      | ' ' :: rest => indentation fuel (column + 1) kept rest c
      | '\t' :: rest => indentation fuel ((column / 8 + 1) * 8) kept rest c
      | '\x0c' :: rest => indentation fuel 0 kept rest c
      | '\\' :: rest => do
          indentation fuel column (kept.or (if column = 0 then none else some column))
            (← continued rest c) c
      | _ => .ok (kept.getD column, s)

/-- The text after blanks and continued lines. -/
def afterGap : (fuel : Nat) → (s : List Char) → Cursor → Except Ending (List Char)
  | 0, s, _ => .ok s
  | fuel + 1, s, c =>
      match s with
      | '\\' :: rest => do afterGap fuel (← continued rest c) c
      | d :: rest => if [' ', '\t', '\x0c'].contains d then afterGap fuel rest c else .ok (d :: rest)
      | [] => .ok []

/-! ## Words and texts -/

/-- The first character of a word that cannot be where it is. -/
def misplaced? : List Char → Option Char
  | c :: rest =>
      if Text.startsWord c then rest.find? (fun d => !Text.continuesWord d) else some c
  | [] => none

/-- The letters that may stand in front of a quote. -/
def textMarks : List String :=
  ["", "b", "u", "f", "r", "br", "rb", "fr", "rf"]

/-- The text after a text in single quotes. -/
def closed? (quote : Char) : List Char → Option (List Char)
  | '\\' :: _ :: rest => closed? quote rest
  | c :: rest =>
      if c = quote then some rest else if c = '\n' then none else closed? quote rest
  | [] => none

/-- The text after a text in tripled quotes. -/
def closedTripled? (quote : Char) : List Char → Option (List Char)
  | '\\' :: _ :: rest => closedTripled? quote rest
  | c :: rest =>
      if c = quote ∧ rest.take 2 = [quote, quote] then some (rest.drop 2)
      else closedTripled? quote rest
  | [] => none

/-- The rest of the line of a text in single quotes. -/
def unclosedPart : List Char → List Char
  | '\\' :: c :: rest => '\\' :: c :: unclosedPart rest
  | c :: rest => if c = '\n' then [] else c :: unclosedPart rest
  | [] => []

/-- The line in which a text without its last quote ends. -/
def lastLine (part inside : List Char) (c : Cursor) : Nat :=
  (c.goTo (c.rest.drop (c.rest.length - inside.length + part.length))).line

/-- The text after a quoted text, from after its first quote. -/
def afterQuoted (quote : Char) (inside : List Char) (c : Cursor) : Except Ending (List Char) :=
  let tripled := inside.take 2 = [quote, quote]
  if tripled then
    match closedTripled? quote (inside.drop 2) with
    | some rest => .ok rest
    | none => .error (.refused (.openText true (c.lastLine inside inside)))
  else
    match closed? quote inside with
    | some rest => .ok rest
    | none => .error (.refused (.openText false (c.lastLine (unclosedPart inside) inside)))

/-! ## Brackets -/

/-- The most brackets that may be open. -/
def mostOpened : Nat :=
  200

/-- The bracket that closes another one. -/
def closingOf (opening : Char) : Char :=
  if opening = '(' then ')' else if opening = '[' then ']' else '\x7d'

/-- The place after a mark of one character. -/
def afterMark (mark : Char) (rest : List Char) (c : Cursor) : Except Ending Cursor :=
  if ['(', '[', '\x7b'].contains mark then
    if mostOpened ≤ c.opened.length then .error (.refused .tooNested)
    else .ok { c.goTo rest with opened := (mark, c.line) :: c.opened }
  else if [')', ']', '\x7d'].contains mark then
    match c.opened with
    | [] => .error (.refused (.unopened mark))
    | (opening, line) :: outer =>
        if mark = closingOf opening then .ok { c.goTo rest with opened := outer }
        else
          .error (.refused (.mismatch opening mark (if line = c.line then none else some line)))
  else .ok (c.goTo rest)

/-! ## Pieces -/

/-- The word at a place, or the marks in front of a quote. -/
def word (c : Cursor) : Except Ending (Token × Cursor) :=
  let marks := c.rest.takeWhile Char.isAlpha
  match c.rest.drop marks.length with
  | q :: inside =>
      if (q = '\'' ∨ q = '"') ∧ textMarks.contains (String.ofList (marks.map Char.toLower)) then do
        return c.piece .text (← c.afterQuoted q inside)
      else plain
  | [] => plain
where
  /-- The word as a name or a word with a meaning of its own. -/
  plain : Except Ending (Token × Cursor) :=
    let letters := c.rest.takeWhile Number.mayBeInWord
    match misplaced? letters with
    | some d => .error (.refused (.character d))
    | none => .ok (c.piece (symbolOfWord letters) (c.rest.drop letters.length))

def mark (c : Cursor) : Except Ending (Token × Cursor) :=
  match marks.find? (fun m => m.toList.isPrefixOf c.rest) with
  | some m => .ok (c.piece (.fixed m) (c.rest.drop m.length))
  | none =>
      match c.rest with
      | m :: rest => do
          let next ← c.afterMark m rest
          if Text.isPrintable m then
            return (⟨.fixed (String.singleton m), [m], c.line, next.opened.length⟩, next)
          else throw (.refused (.character m))
      | [] => .error c.cutOff

/-- The piece at a place where one starts. -/
def next (c : Cursor) : Except Ending (Token × Cursor) :=
  match c.rest with
  | d :: rest =>
      if d.isDigit || (d = '.' && rest.head?.any Char.isDigit) then
        match Number.rest c.rest with
        | .ok after => .ok (c.piece .number after)
        | .error f => .error (.refused f)
      else if ['.', '.', '.'].isPrefixOf c.rest then .ok (c.piece (.fixed "...") (rest.drop 2))
      else if d = '\'' ∨ d = '"' then do return c.piece .text (← c.afterQuoted d rest)
      else if Number.mayBeInWord d then c.word
      else c.mark
  | [] => .error c.cutOff

/-! ## Lines -/

/-- An indentation in front of a line, or the end of some. -/
def indent (column : Nat) (c : Cursor) : Except Ending (List Token × Cursor) :=
  let ended := c.indents.takeWhile (column < ·)
  let left := c.indents.drop ended.length
  let dedents := ended.map (fun _ => (⟨.dedent, [], c.line, 0⟩ : Token))
  match left with
  | outer :: _ =>
      if column = outer then .ok (dedents, { c with indents := left })
      else if ended.isEmpty then
        .ok ([⟨.indent, [], c.line, 0⟩], { c with indents := column :: left })
      else .error (.stopped .dedented none)
  | [] => .error (.stopped .dedented none)

end Cursor

/-- The pieces of a text, and how they end. -/
structure Pieces where
  tokens : Array Token
  ending : Ending
  showsEnd : Bool := false

namespace Pieces

/-- The pieces from a place on, behind those found; `atStart` tells whether a line starts there. -/
def collect : (fuel : Nat) → (atStart : Bool) → Cursor → Array Token → Pieces
  | 0, _, _, tokens => { tokens, ending := .finished }
  | fuel + 1, true, c, tokens =>
      match Cursor.indentation (c.rest.length + 1) 0 none c.rest c with
      | .error ending => { tokens, ending }
      | .ok (column, rest) =>
          let behind := Cursor.withoutComment rest
          if rest.head? = some '#' || rest.head? = some '\n' then
            collect fuel (behind.head? = some '\n') (c.goTo (behind.drop 1)) tokens
          else if !c.opened.isEmpty then collect fuel false (c.goTo rest) tokens
          else
            match (c.goTo rest).indent column with
            | .error ending => { tokens, ending }
            | .ok (found, c) => collect fuel false c (tokens ++ found.toArray)
  | fuel + 1, false, c, tokens =>
      match Cursor.afterGap (c.rest.length + 1) c.rest c with
      | .error ending => { tokens, ending }
      | .ok rest =>
          let c := c.goTo (Cursor.withoutComment rest)
          match c.rest with
          | [] =>
              if c.opened.isEmpty then
                { tokens := tokens.push ⟨.finish, [], c.line, 0⟩, ending := .finished }
              else { tokens, ending := c.cutOff }
          | '\n' :: rest =>
              if c.opened.isEmpty then
                let (token, c) := c.piece .newline rest
                collect fuel true c (tokens.push token)
              else collect fuel true (c.goTo rest) tokens
          | _ =>
              match c.next with
              | .error ending => { tokens, ending }
              | .ok (token, c) =>
                  let tokens := tokens.push token
                  if c.rest.isEmpty && !c.opened.isEmpty && token.needsNext then
                    { tokens, ending := c.cutOff, showsEnd := true }
                  else collect fuel false c tokens

/-- The pieces of a text, all line breaks taken for line feeds. -/
def ofText (s : List Char) : Pieces :=
  let s := feeds s
  collect (2 * s.length + 2) true (Cursor.start s) #[]
where
  /-- A text with line feeds for all its line breaks. -/
  feeds : List Char → List Char
    | '\r' :: '\n' :: rest => '\n' :: feeds rest
    | c :: rest => (if c = '\r' then '\n' else c) :: feeds rest
    | [] => []

end Pieces

end Expression
end Killswitch
