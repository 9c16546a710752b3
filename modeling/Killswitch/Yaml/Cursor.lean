/-!
# Reading position

A position in a document: the characters still to be read, and the index, line and column of the
next one.

**Contents.**
* the character classes of the grammar, in which the end of the text is the null character, which no
  document contains;
* `Cursor.next`, `Cursor.advance` and `Cursor.span`: moving on by characters;
* `Cursor.lineBreak`: moving on over one line break.
-/

namespace Killswitch
namespace Yaml

/-- The mark for the end of the text. -/
def endMark : Char :=
  '\x00'

/-- Whether a character may stand in a document. -/
def isDocumentChar (c : Char) : Bool :=
  let n := c.toNat
  n == 0x09 || n == 0x0a || n == 0x0d || (0x20 ≤ n && n ≤ 0x7e) || n == 0x85
    || (0xa0 ≤ n && n ≤ 0xfffd) || 0x10000 ≤ n

/-- Whether a character breaks a line. -/
def isBreak (c : Char) : Bool :=
  c == '\n' || c == '\r' || c == '\x85' || c == '\u2028' || c == '\u2029'

/-- Whether a line ends at a character. -/
def endsLine (c : Char) : Bool :=
  c == endMark || isBreak c

/-- Whether a word of a directive or a header ends at a character. -/
def endsWord (c : Char) : Bool :=
  c == ' ' || endsLine c

/-- Whether an indicator ends at a character, so that it counts as one. -/
def endsIndicator (c : Char) : Bool :=
  c == '\t' || endsWord c

/-- Whether a character may stand in a name. -/
def isNameChar (c : Char) : Bool :=
  c.isAlphanum || c == '-' || c == '_'

/-- A position in a document. -/
structure Cursor where
  rest : List Char
  index : Nat
  line : Nat
  column : Nat
  deriving Repr

namespace Cursor

/-- The position before the first character. -/
def ofText (text : List Char) : Cursor :=
  ⟨text, 0, 0, 0⟩

/-- The character `k` places on. -/
def peek (c : Cursor) (k : Nat) : Char :=
  (c.rest.drop k).headD endMark

/-- The next character. -/
def head (c : Cursor) : Char :=
  c.rest.headD endMark

/-- The position after the next character. A line feed belongs to the carriage return before it. -/
def next (c : Cursor) : Cursor :=
  match c.rest with
  | [] => c
  | x :: rest =>
      if isBreak x && !(x == '\r' && rest.headD endMark == '\n') then
        ⟨rest, c.index + 1, c.line + 1, 0⟩
      else if x == '\uFEFF' then ⟨rest, c.index + 1, c.line, c.column⟩
      else ⟨rest, c.index + 1, c.line, c.column + 1⟩

/-- The position after `n` characters. -/
def advance (c : Cursor) : Nat → Cursor
  | 0 => c
  | n + 1 => c.next.advance n

/-- The longest run of characters of a class, and the position after it. -/
def span (c : Cursor) (inClass : Char → Bool) : List Char × Cursor :=
  let run := c.rest.takeWhile inClass
  (run, c.advance run.length)

/-- The position after the longest run of characters of a class. -/
def skip (c : Cursor) (inClass : Char → Bool) : Cursor :=
  (c.span inClass).2

/-- The position after at most `n` spaces. -/
def skipSpaces (c : Cursor) (n : Nat) : Cursor :=
  c.advance ((c.rest.take n).takeWhile (· == ' ')).length

/-- The line break at a position as a scalar has it, and the position after it. -/
def lineBreak (c : Cursor) : List Char × Cursor :=
  let x := c.head
  if x == '\r' || x == '\n' || x == '\x85' then
    (['\n'], c.advance (if x == '\r' && c.peek 1 == '\n' then 2 else 1))
  else if x == '\u2028' || x == '\u2029' then ([x], c.next)
  else ([], c)

/-- Whether a document marker, three dashes or three dots, stands at a position. -/
def atMarker (c : Cursor) : Bool :=
  (c.rest.take 3 == ['-', '-', '-'] || c.rest.take 3 == ['.', '.', '.'])
    && endsIndicator (c.peek 3)

end Cursor

end Yaml
end Killswitch
