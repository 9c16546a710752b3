import Killswitch.Action
import Killswitch.CommandLine.Markup
import Killswitch.Text.Lines

/-!
# The screen

**Contents.**
* `Screen.textOf`: what a text in markup shows;
* `Screen.display`: such a text, shown to the user;
* `Screen.table`: rows of two cells, in columns;
* `Screen.printResult`: a part of the result, without the control sequences that colour a screen.
-/

namespace Killswitch
namespace Screen

/-- Looks up the styles of the parts of a text. Words that mean none are passed over. -/
def checkStyles (t : StyledText) : Except Failure Unit :=
  t.parts.forM (fun part => do
    let _ ← Style.read? (Text.words part.style))

/-- The text that some markup shows. Names of pictures between colons are left as they are written. -/
def textOf (markup : String) : Except Failure String := do
  let lines := (← Markup.render markup).splitLines.map StyledText.expandTabs
  lines.forM checkStyles
  return String.ofList (['\n'].intercalate (lines.map StyledText.chars))

/-- Shows a text in markup on lines of its own. -/
def display (markup : String) : Action Unit := do
  Action.notice ((← Action.ofOutcome (textOf markup)) ++ "\n")

/-! ## Tables -/

def widest (t : StyledText) : Nat :=
  ((Text.lines t.chars).map Text.width).foldl max 0

/-- The first pieces that fit into a column, the last one cut. -/
def crop : Nat → List (List Char) → List (List Char)
  | _, [] => []
  | limit, piece :: rest =>
      if Text.width piece < limit then piece :: crop (limit - Text.width piece) rest
      else [Text.fit limit piece]

/-- Pieces made as wide as a column. A cropped line may still be narrower, since the cells of a
character can hang on those before it. -/
def adjust (limit : Nat) (pieces : List (List Char)) : List (List Char) :=
  let cells := (pieces.map Text.width).foldl (· + ·) 0
  if cells < limit then pieces ++ [List.replicate (limit - cells) ' ']
  else if limit < cells then crop limit pieces
  else pieces

def margin : List Char :=
  [' ', ' ']

/-- The width of a column with its margins. -/
def withMargins (limit : Nat) : Nat :=
  margin.length + limit + margin.length

/-- A line of a cell with the margins. It is adjusted three times: alone, with margins, and as a line of
the table. -/
def cellLine (limit : Nat) (line : StyledText) : List Char :=
  let pieces := [margin] ++ adjust limit line.pieces ++ [margin]
  (adjust (withMargins limit) (adjust (withMargins limit) pieces)).flatten

/-- The lines of a cell in a column. -/
def cell (limit : Nat) (t : StyledText) : Except Failure (List (List Char)) := do
  let lines := t.wrap limit
  lines.forM checkStyles
  return lines.map (cellLine limit)

/-- The lines of two cells side by side; empty lines follow the shorter one. -/
def beside (left right : List Char) : List (List Char) → List (List Char) → List (List Char)
  | [], [] => []
  | l :: ls, [] => (l ++ right) :: beside left right ls []
  | [], r :: rs => (left ++ r) :: beside left right [] rs
  | l :: ls, r :: rs => (l ++ r) :: beside left right ls rs

def emptyLine (limit : Nat) : List Char :=
  List.replicate (withMargins limit) ' '

/-- The lines of a row in two columns. -/
def row (left right : Nat) (cells : StyledText × StyledText) : Except Failure (List Char) := do
  let lines := beside (emptyLine left) (emptyLine right) (← cell left cells.1) (← cell right cells.2)
  return lines.flatMap (· ++ ['\n'])

/-- Rows of two cells, each column as wide as its widest cell. -/
def tableText (rows : List (String × String)) : Except Failure String := do
  let cells ← rows.mapM (fun (left, right) => do
    return (← Markup.render left, ← Markup.render right))
  let left := (cells.map (fun row => widest row.1)).foldl max 0
  let right := (cells.map (fun row => widest row.2)).foldl max 0
  return String.ofList (← cells.mapM (row left right)).flatten

def table (rows : List (String × String)) : Action Unit := do
  Action.notice (← Action.ofOutcome (tableText rows))

/-! ## The result -/

/-- Whether a control sequence may have a parameter of this character. -/
def isParameter (c : Char) : Bool :=
  '0' ≤ c && c ≤ '?'

/-- Whether a character may stand behind the parameters. -/
def isIntermediate (c : Char) : Bool :=
  ' ' ≤ c && c ≤ '/'

/-- Whether a character ends a control sequence. -/
def isFinal (c : Char) : Bool :=
  '@' ≤ c && c ≤ '~'

/-- The text after a control sequence, from after its first character. -/
def afterSequence? : List Char → Option (List Char)
  | '[' :: rest =>
      match (rest.dropWhile isParameter).dropWhile isIntermediate with
      | c :: after => if isFinal c then some after else none
      | [] => none
  | _ => none

/-- A text without control sequences. -/
def withoutSequencesFrom : (fuel : Nat) → List Char → List Char
  | 0, s => s
  | _ + 1, [] => []
  | fuel + 1, c :: rest =>
      if c = '\x1b' then
        match afterSequence? rest with
        | some after => withoutSequencesFrom fuel after
        | none => c :: withoutSequencesFrom fuel rest
      else c :: withoutSequencesFrom fuel rest

def withoutSequences (s : String) : String :=
  String.ofList (withoutSequencesFrom s.length s.toList)

/-- Writes a part of the result. -/
def printResult (text : String) : Action Unit :=
  Action.write (withoutSequences text)

end Screen
end Killswitch
