import Killswitch.CommandLine.Style
import Killswitch.CommandLine.StyledText
import Killswitch.Text.Search
import Killswitch.Text.Word

/-!
# Markup

What is shown to the user is written in a small markup language: a name between brackets opens a
style, the name after a slash closes it. A backslash in front of a bracket makes it an ordinary one.
The marks of a style are not shown, and must fit; nor are controls that move back or make a noise. A
name that starts with an at sign stands for an action, which the screen does not offer; but what it is
given must be a literal.

**Contents.**
* `tag?`, `pieces`: the marks of a text and what stands between them;
* `escape`: a text in which nothing is a mark any more;
* `render`: a text without its marks, and with the parts that they style.
-/

namespace Killswitch
namespace Markup

/-- A piece of a text: ordinary characters, or a mark after some backslashes. -/
inductive Piece where
  | plain (s : List Char)
  | mark (backslashes : Nat) (body : List Char)
  deriving DecidableEq, Repr

/-- Whether a mark can start with a character. -/
def opensMark (c : Char) : Bool :=
  ('a' ≤ c && c ≤ 'z') || c == '#' || c == '/' || c == '@'

/-- Whether a character lies inside a mark. -/
def isInside (c : Char) : Bool :=
  c != '[' && c != ']'

/-- The mark at the start of a text, and the text after it. -/
def tag? : List Char → Option (List Char × List Char)
  | '[' :: c :: rest =>
      if opensMark c then
        match rest.dropWhile isInside with
        | ']' :: after => some (c :: rest.takeWhile isInside, after)
        | _ => none
      else none
  | _ => none

/-- The ordinary characters in front of some pieces. -/
def plainBefore (passed : List Char) (pieces : List Piece) : List Piece :=
  if passed.isEmpty then pieces else .plain passed.reverse :: pieces

/-- The pieces of a text; `passed` holds the ordinary characters before it, reversed. -/
def piecesFrom : (fuel : Nat) → (passed s : List Char) → List Piece
  | 0, passed, s => plainBefore passed (plainBefore s.reverse [])
  | _ + 1, passed, [] => plainBefore passed []
  | fuel + 1, passed, c :: rest =>
      let slashes := (c :: rest).takeWhile (· == '\\')
      let beyond := (c :: rest).drop slashes.length
      match tag? beyond with
      | some (body, after) =>
          plainBefore passed (.mark slashes.length body :: piecesFrom fuel [] after)
      | none =>
          if slashes.isEmpty then piecesFrom fuel (c :: passed) rest
          else piecesFrom fuel (slashes ++ passed) beyond

def pieces (s : List Char) : List Piece :=
  piecesFrom s.length [] s

def bracketed (body : List Char) : List Char :=
  '[' :: body ++ [']']

def backslashes (n : Nat) : List Char :=
  List.replicate n '\\'

/-! ## Escaping -/

/-- A piece with its mark made ordinary. -/
def escapePiece : Piece → List Char
  | .plain s => s
  | .mark n body => backslashes (2 * n + 1) ++ bracketed body

/-- A text whose last backslash is doubled if it is a single one, since a mark may follow. -/
def closeBackslash (s : List Char) : List Char :=
  match s.reverse with
  | '\\' :: '\\' :: _ => s
  | '\\' :: _ => s ++ ['\\']
  | _ => s

/-- A text in which nothing is a mark any more. -/
def escape (s : String) : String :=
  String.ofList (closeBackslash ((pieces s.toList).flatMap escapePiece))

/-! ## Rendering -/

/-- Ordinary characters without the backslashes in front of brackets. -/
def unescape : List Char → List Char
  | '\\' :: '[' :: rest => '[' :: unescape rest
  | c :: rest => c :: unescape rest
  | [] => []

/-- Whether a control character has no effect on the screen. -/
def isIgnored (c : Char) : Bool :=
  let n := c.toNat
  n == 7 || n == 8 || n == 11 || n == 12 || n == 13

/-- What the screen takes of some characters. -/
def taken (s : List Char) : List Char :=
  s.filter (fun c => !isIgnored c)

/-- An open style or action: its name, where it starts, and what its mark says after an equals sign. -/
structure Opened where
  name : List Char
  start : Nat
  parameters : Option (List Char)
  deriving DecidableEq, Repr

/-- Whether a mark is for an action. -/
def Opened.isAction (o : Opened) : Bool :=
  o.name.head? = some '@'

/-- The words for the style of a part; an action has none. -/
def Opened.style (o : Opened) : List Char :=
  if o.isAction then []
  else o.name ++ (o.parameters.map (fun parameters => ' ' :: parameters)).getD []

/-- What an action is given: what stands in brackets behind a name, nothing, or the parameters
themselves. -/
def argumentsOf (parameters : List Char) : List Char :=
  let s := Text.trim parameters
  let rest := s.dropWhile (fun c => Text.isAlphanumeric c || c == '_' || c == '.')
  if rest.isEmpty then ['(', ')']
  else if rest.head? = some '(' && rest.getLast? = some ')' && !rest.contains '\n' then rest
  else s

/-- Refuses an action that is given what is no literal. -/
def Opened.check (o : Opened) : Except Failure Unit :=
  match o.parameters with
  | some parameters =>
      if o.isAction then
        let arguments := argumentsOf parameters
        (Expression.checkLiteral arguments).mapError (.badArguments arguments parameters)
      else .ok ()
  | none => .ok ()

/-- What has been shown of a text, the last one first in all lists. -/
structure Shown where
  chars : List Char
  place : Nat
  parts : List StyledPart
  opened : List Opened

def Shown.nothing : Shown :=
  ⟨[], 0, [], []⟩

def Shown.show (chars : List Char) (s : Shown) : Shown :=
  let chars := taken chars
  { s with chars := chars.reverse ++ s.chars, place := s.place + chars.length }

/-- Closes an open style or action. -/
def Shown.close (o : Opened) (s : Shown) : Shown :=
  { s with parts := ⟨o.start, s.place, o.style⟩ :: s.parts, opened := s.opened.erase o }

/-- The text that has been shown, with open styles up to its end. The parts are in the order of their
starts. -/
def Shown.finish (s : Shown) : StyledText where
  chars := s.chars.reverse
  parts := (s.opened.foldl (fun s o => s.close o) s).parts.mergeSort (fun a b => a.start ≤ b.start)

/-- Applies a mark at a place of the markup. -/
def Shown.apply (position : Nat) (body : List Char) (s : Shown) : Except Failure Shown :=
  match Text.cutAt '=' body with
  | ('/' :: name, _) =>
      if (Text.trim name).isEmpty then
        match s.opened with
        | [] => .error (.nothingToClose position)
        | o :: _ => do
            o.check
            return s.close o
      else do
        let name ← Style.nameOf name
        match s.opened.find? (fun o => o.name == name) with
        | some o => do
            o.check
            return s.close o
        | none => throw (.unopenedMark (String.ofList (bracketed body)) position)
  | (name, parameters) => do
      let name ← Style.nameOf name
      return { s with opened := ⟨name, s.place, parameters⟩ :: s.opened }

def Piece.length : Piece → Nat
  | .plain s => s.length
  | .mark n body => n + body.length + 2

/-- Shows the pieces of a text from a place on. -/
def showFrom (s : Shown) (position : Nat) : List Piece → Except Failure Shown
  | [] => .ok s
  | .plain chars :: rest => showFrom (s.show (unescape chars)) (position + chars.length) rest
  | .mark n body :: rest => do
      let next := position + (Piece.mark n body).length
      let s := s.show (backslashes (n / 2))
      if n % 2 = 1 then showFrom (s.show (bracketed body)) next rest
      else showFrom (← s.apply (position + n) body) next rest

/-- A text without its marks, and with the parts that they style. -/
def render (s : String) : Except Failure StyledText :=
  if s.toList.contains '[' then Shown.finish <$> showFrom .nothing 0 (pieces s.toList)
  else .ok (.plain (taken s.toList))

end Markup
end Killswitch
