import Killswitch.Text.Blank
import Killswitch.Text.Cluster

/-!
# Styled text

A text with parts that are shown in a style of their own. Which style it is makes no difference to the
characters, so a style is kept as the words for it. The parts follow their characters when the text is
cut, joined or filled up, and where one starts or ends the text is measured in pieces.

**Contents.**
* `StyledText`, `StyledText.divide`, `StyledText.join`: texts, cut and put together;
* `StyledText.splitLines`, `StyledText.expandTabs`: the lines of a text, and one without tabs;
* `StyledText.wrap`: the lines that fit into a column.
-/

namespace Killswitch

/-- A part of a text: where it starts and ends, and the words for its style. -/
structure StyledPart where
  start : Nat
  stop : Nat
  style : List Char
  deriving DecidableEq, Repr

/-- A text and its styled parts. -/
structure StyledText where
  chars : List Char
  parts : List StyledPart
  deriving DecidableEq, Repr

namespace StyledText

def plain (s : List Char) : StyledText :=
  ⟨s, []⟩

def width (t : StyledText) : Nat :=
  Text.width t.chars

/-! ## Cutting and joining -/

/-- The characters from one place to another, with their styled parts. -/
def slice (start stop : Nat) (t : StyledText) : StyledText where
  chars := (t.chars.drop start).take (stop - start)
  parts := (t.parts.map (fun part =>
      { part with start := part.start - start, stop := min part.stop stop - start })).filter
    (fun part => part.start < part.stop)

/-- The characters from a place on, with their styled parts. -/
def sliceFrom (start : Nat) (t : StyledText) : StyledText where
  chars := t.chars.drop start
  parts := (t.parts.map (fun part =>
      { part with start := part.start - start, stop := part.stop - start })).filter
    (fun part => part.start < part.stop)

/-- The slices of a text that starts at a place: up to each cut, and the rest. -/
def slicesFrom (place : Nat) (t : StyledText) : List Nat → List StyledText
  | [] => [t.sliceFrom 0]
  | cut :: cuts => t.slice 0 (cut - place) :: slicesFrom cut (t.sliceFrom (cut - place)) cuts

/-- A text cut at some places; without cuts it stays as it is. -/
def divide (cuts : List Nat) (t : StyledText) : List StyledText :=
  if cuts.isEmpty then [t] else slicesFrom 0 t cuts

/-- A text and another one behind it. -/
def append (t u : StyledText) : StyledText where
  chars := t.chars ++ u.chars
  parts := t.parts ++ u.parts.map (fun part =>
    { part with start := t.chars.length + part.start, stop := t.chars.length + part.stop })

/-- Some texts, one behind the other. -/
def join (ts : List StyledText) : StyledText :=
  ts.foldr append (plain [])

/-- A text with other characters; parts that reach beyond them end there. -/
def withChars (s : List Char) (t : StyledText) : StyledText where
  chars := s
  parts :=
    if s.length < t.chars.length then
      (t.parts.filter (fun part => part.start < s.length)).map (fun part =>
        { part with stop := min part.stop s.length })
    else t.parts

/-- The pieces of a text between the edges of its parts. -/
def pieces (t : StyledText) : List (List Char) :=
  let edges := t.parts.flatMap (fun part => [part.start, part.stop])
  let cuts := (List.range t.chars.length).filter (fun i => 0 < i && edges.contains i)
  (t.divide cuts).map StyledText.chars

/-! ## Lines and tabs -/

/-- The places behind some characters of a text that starts at a place. -/
def placesAfter (isMark : Char → Bool) (place : Nat) : List Char → List Nat
  | [] => []
  | c :: rest =>
      if isMark c then (place + 1) :: placesAfter isMark (place + 1) rest
      else placesAfter isMark (place + 1) rest

/-- The lines of a text without the line feeds between them. -/
def splitLines (t : StyledText) : List StyledText :=
  let cuts := placesAfter (· == '\n') 0 t.chars
  let last := cuts.length
  (t.divide cuts).zipIdx.map (fun (line, i) =>
    if i < last then line.slice 0 (line.chars.length - 1) else line)

/-- The cells between two stops of the tabulator. -/
def tabStop : Nat :=
  8

/-- A text with spaces for the tab at its end, and the column that it reaches. -/
def spread (column : Nat) (t : StyledText) : StyledText × Nat :=
  if t.chars.getLast? = some '\t' then
    let chars := t.chars.dropLast ++ [' ']
    let reached := column + Text.width chars
    let gap := (tabStop - reached % tabStop) % tabStop
    (⟨chars ++ List.replicate gap ' ',
      t.parts.map (fun part =>
        if chars.length ≤ part.stop then { part with stop := part.stop + gap } else part)⟩,
     reached + gap)
  else (t, column + t.width)

/-- Texts in a line with spaces for their tabs; the first one starts at a column. -/
def spreadAll (column : Nat) : List StyledText → List StyledText
  | [] => []
  | t :: rest =>
      let (t, column) := spread column t
      t :: spreadAll column rest

/-- A line with spaces for its tabs. -/
def expandTabs (t : StyledText) : StyledText :=
  let cuts := placesAfter (· == '\t') 0 t.chars
  if cuts.isEmpty then t else join (spreadAll 0 (t.divide cuts))

/-! ## Columns -/

/-- The places where a line is broken so that words fit; `filled` is what is filled of the line. A word
has the blanks behind it, the first one also those before it. -/
def breaksFrom (limit : Nat) : (fuel place filled : Nat) → List Char → List Nat
  | 0, _, _, _ => []
  | fuel + 1, place, filled, s =>
      let lead := s.takeWhile Text.isBlank
      let s := s.drop lead.length
      let body := s.takeWhile (fun c => !Text.isBlank c)
      let s := s.drop body.length
      let trail := s.takeWhile Text.isBlank
      let s := s.drop trail.length
      if body.isEmpty then []
      else
        let word := lead ++ body ++ trail
        let next := place + word.length
        if filled + Text.width (lead ++ body) ≤ limit then
          breaksFrom limit fuel next (filled + Text.width word) s
        else if 0 < place then place :: breaksFrom limit fuel next (Text.width word) s
        else breaksFrom limit fuel next (Text.width word) s

/-- A line without the blanks that make it too long. -/
def trimBeyond (limit : Nat) (t : StyledText) : StyledText :=
  let blanks := t.chars.length - (Text.trimEnd t.chars).length
  t.withChars (t.chars.take (t.chars.length - min blanks (t.chars.length - limit)))

/-- What stands for the rest of a line. -/
def ellipsis : Char :=
  Char.ofNat 0x2026

/-- A line cut or filled up to the column. -/
def fill (limit : Nat) (t : StyledText) : StyledText :=
  if limit < t.width then t.withChars (Text.fit (limit - 1) t.chars ++ [ellipsis])
  else { t with chars := Text.fit limit t.chars }

/-- The lines of a text in a column. -/
def wrap (limit : Nat) (t : StyledText) : List StyledText :=
  t.splitLines.flatMap (fun line =>
    let line := line.expandTabs
    (line.divide (breaksFrom limit line.chars.length 0 0 line.chars)).map
      (fun part => (part.trimBeyond limit).fill limit))

end StyledText
end Killswitch
