import Killswitch.CommandLine.Color

/-!
# Styles

A style turns attributes on or off, chooses the colours of letters and ground, and links to an address.
It is written as words in any order, some of which have short forms. Its name is the usual form of these
words, so that a style that is closed need not be spelled the way it was opened. A text that is no style
is its own name, whatever its case.

**Contents.**
* `Attribute`: what a style can turn on and off;
* `Style`, `Style.name`: styles, and the words for them in the usual order;
* `Style.read?`: the style that some words mean;
* `Style.nameOf`: the name of the style that a text means.
-/

namespace Killswitch

/-- What a style can turn on and off. -/
inductive Attribute where
  | bold
  | dim
  | italic
  | underline
  | blink
  | fastBlink
  | reverse
  | conceal
  | strike
  | doubleUnderline
  | frame
  | encircle
  | overline
  deriving DecidableEq, Repr

namespace Attribute

/-- The attributes in the order in which they are named. -/
def all : List Attribute :=
  [.bold, .dim, .italic, .underline, .blink, .fastBlink, .reverse, .conceal, .strike,
   .doubleUnderline, .frame, .encircle, .overline]

def name : Attribute → String
  | .bold => "bold"
  | .dim => "dim"
  | .italic => "italic"
  | .underline => "underline"
  | .blink => "blink"
  | .fastBlink => "blink2"
  | .reverse => "reverse"
  | .conceal => "conceal"
  | .strike => "strike"
  | .doubleUnderline => "underline2"
  | .frame => "frame"
  | .encircle => "encircle"
  | .overline => "overline"

/-- The short word for an attribute. -/
def short? : Attribute → Option String
  | .bold => some "b"
  | .dim => some "d"
  | .italic => some "i"
  | .underline => some "u"
  | .reverse => some "r"
  | .conceal => some "c"
  | .strike => some "s"
  | .doubleUnderline => some "uu"
  | .overline => some "o"
  | _ => none

/-- The attribute that a word means. -/
def ofWord? (word : List Char) : Option Attribute :=
  all.find? (fun a => a.name == String.ofList word || a.short? == some (String.ofList word))

end Attribute

/-- A style: the attributes that it turns on or off, the last one first, its colours, and its link. -/
structure Style where
  attributes : List (Attribute × Bool)
  color : Option (List Char)
  ground : Option (List Char)
  link : Option (List Char)
  deriving DecidableEq, Repr

namespace Style

def plain : Style :=
  ⟨[], none, none, none⟩

/-- The word for a style without words. -/
def plainName : List Char :=
  "none".toList

/-- The words for an attribute that a style has. -/
def attributeWords (s : Style) (a : Attribute) : List (List Char) :=
  match s.attributes.lookup a with
  | some true => [a.name.toList]
  | some false => ["not".toList, a.name.toList]
  | none => []

/-- The words for a style in the usual order. -/
def words (s : Style) : List (List Char) :=
  Attribute.all.flatMap s.attributeWords ++ s.color.toList
    ++ (s.ground.map (fun color => ["on".toList, color])).getD []
    ++ (s.link.map (fun address => ["link".toList, address])).getD []

/-- The name of a style. -/
def name (s : Style) : List Char :=
  if s.words.isEmpty then plainName else [' '].intercalate s.words

/-- A style with an attribute turned on or off. -/
def turn (a : Attribute) (on : Bool) (s : Style) : Style :=
  { s with attributes := (a, on) :: s.attributes }

/-- The style that some words mean on top of a style. -/
def readFrom? (s : Style) : List (List Char) → Except Failure (Option Style)
  | [] => .ok (some s)
  | word :: rest =>
      let key := Text.lower word
      if key == "on".toList then
        match rest with
        | color :: rest => do
            match ← Color.name? color with
            | some name => readFrom? { s with ground := some name } rest
            | none => return none
        | [] => .ok none
      else if key == "not".toList then
        match rest with
        | switched :: rest =>
            match Attribute.ofWord? switched with
            | some a => readFrom? (s.turn a false) rest
            | none => .ok none
        | [] => .ok none
      else if key == "link".toList then
        match rest with
        | address :: rest => readFrom? { s with link := some address } rest
        | [] => .ok none
      else
        match Attribute.ofWord? key with
        | some a => readFrom? (s.turn a true) rest
        | none => do
            match ← Color.name? key with
            | some name => readFrom? { s with color := some name } rest
            | none => return none

/-- The style that some words mean. None, and the word for none, mean the style that changes nothing. -/
def read? (words : List (List Char)) : Except Failure (Option Style) :=
  if words == [plainName] then .ok (some plain) else plain.readFrom? words

/-- The name of the style that a text means. -/
def nameOf (s : List Char) : Except Failure (List Char) := do
  match ← read? (Text.words s) with
  | some style => return style.name
  | none => return Text.lower (Text.trim s)

end Style
end Killswitch
