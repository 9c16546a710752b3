import Killswitch.Text.Blank
import Killswitch.Text.Digit

/-!
# Endpoints in lines

A client configuration names the servers that it connects to in one of two kinds of line:

* `remote HOST ...`, where the host ends at a blank;
* `Endpoint = HOST:PORT` or `Endpoint = [ADDRESS]:PORT`, perhaps with a comment after it.

A host shorter than four characters is never usable, so such a line names no server.

**Contents.**
* `remote?` and `endpoint?`: the host of a line of either kind;
* `ofLine?`: the host of a line.
-/

namespace Killswitch
namespace Endpoint

open Text (isBlank isDigit)

def leastLength : Nat :=
  4

def usable? (host : List Char) : Option (List Char) :=
  if leastLength ≤ host.length then some host else none

/-- Whether a character is a letter of a keyword, whose `i` may be written in four ways. -/
def sameLetter (keyword c : Char) : Bool :=
  c == keyword || c.toLower == keyword || (keyword == 'i' && (c == 'İ' || c == 'ı'))

/-- The text after a keyword, whose letters `same` compares. -/
def after? (same : Char → Char → Bool) : (keyword s : List Char) → Option (List Char)
  | [], s => some s
  | _ :: _, [] => none
  | k :: keyword, c :: s => if same k c then after? same keyword s else none

/-- A text that starts with a blank, without its first blanks. -/
def afterBlanks? : List Char → Option (List Char)
  | [] => none
  | c :: s => if isBlank c then some (s.dropWhile isBlank) else none

/-- The host of a `remote` line. -/
def remote? (line : List Char) : Option (List Char) := do
  let s ← after? (fun k c => k == c) "remote".toList (line.dropWhile isBlank)
  let s ← afterBlanks? s
  usable? (s.takeWhile (fun c => !isBlank c))

/-- Whether a character may stand in a host between brackets. -/
def isBracketed (c : Char) : Bool :=
  c != ']' && !isBlank c

/-- Whether a character may stand in a host without brackets. -/
def isBare (c : Char) : Bool :=
  !isBlank c && c != ':' && c != '[' && c != ']'

/-- The host at the start of a text, and the text after it. -/
def host? (s : List Char) : Option (List Char × List Char) :=
  match s with
  | '[' :: s =>
      match s.dropWhile isBracketed with
      | ']' :: rest => (usable? (s.takeWhile isBracketed)).map (·, rest)
      | _ => none
  | s => (usable? (s.takeWhile isBare)).map (·, s.dropWhile isBare)

/-- A text without one line feed at its end. -/
def withoutFinalBreak (s : List Char) : List Char :=
  if s.getLast? = some '\n' then s.dropLast else s

/-- Whether nothing but blanks and a comment within the line is left. -/
def endsLine (s : List Char) : Bool :=
  match s.dropWhile isBlank with
  | [] => true
  | '#' :: comment => !(withoutFinalBreak comment).contains '\n'
  | _ => false

/-- The host of an `Endpoint` line. -/
def endpoint? (line : List Char) : Option (List Char) := do
  let s ← after? sameLetter "endpoint".toList (line.dropWhile isBlank)
  match s.dropWhile isBlank with
  | '=' :: s =>
      match ← host? (s.dropWhile isBlank) with
      | (host, ':' :: s) =>
          if (s.takeWhile isDigit).isEmpty then none
          else if endsLine (s.dropWhile isDigit) then some host
          else none
      | _ => none
  | _ => none

/-- The host that a line names, if it names one. -/
def ofLine? (line : List Char) : Option (List Char) :=
  match remote? line with
  | some host => some host
  | none => endpoint? line

end Endpoint
end Killswitch
