/-!
# Lines

Rules about line ends. A reader of text files applies the first and the last one, in this order; a
reader of what a program writes applies the second one.

**Contents.**
* `unifyBreaks`: every carriage return, alone or before a line feed, becomes one line feed;
* `joinBreaks`: a carriage return before a line feed goes, and every other one stays;
* `lines`: a text cut at its line breaks, where a break at the end opens no further line.
-/

namespace Killswitch
namespace Text

def isLineBreak (c : Char) : Bool :=
  let n := c.toNat
  (0x0a ≤ n && n ≤ 0x0d) || (0x1c ≤ n && n ≤ 0x1e) || n == 0x85 || n == 0x2028 || n == 0x2029

/-- All line breaks become line feeds. -/
def unifyBreaks : List Char → List Char
  | [] => []
  | '\r' :: '\n' :: rest => '\n' :: unifyBreaks rest
  | c :: rest => (if c = '\r' then '\n' else c) :: unifyBreaks rest

/-- A carriage return and a line feed become one line feed. -/
def joinBreaks : List Char → List Char
  | [] => []
  | '\r' :: '\n' :: rest => '\n' :: joinBreaks rest
  | c :: rest => c :: joinBreaks rest

/-- The lines of a text, without their breaks. -/
def lines : List Char → List (List Char)
  | [] => []
  | '\r' :: '\n' :: rest => [] :: lines rest
  | c :: rest =>
      if isLineBreak c then [] :: lines rest
      else
        match lines rest with
        | [] => [[c]]
        | line :: more => (c :: line) :: more

end Text
end Killswitch
