import Killswitch.Text.Quoted
import Killswitch.Text.Search

/-!
# Arguments

How the words of a command line are told apart.

**Rules.**
* A long option has two dashes. Its value is the text after an equals sign, or else the next word.
* A short option has one dash and one letter. Several may share a dash; the value of one is the rest
  of its word, or else the next word.
* A word that is awaited as a value may look like an option.
* Two dashes alone end the options.

**Contents.**
* `Form`: an option that is known;
* `Parsed`: the options of a command line in their order, and the other words;
* `parse`: the reader.
-/

namespace Killswitch
namespace CommandLine

/-- A known option: what it means, how it is written, and whether it has a value. -/
structure Form (Key : Type) where
  key : Key
  long : Option String
  short : Option Char
  takesValue : Bool
  deriving Repr

/-- The options with their values, and the words that are none. -/
structure Parsed (Key : Type) where
  given : List (Key × Option String)
  rest : List String
  deriving Repr

variable {Key : Type}

/-- More options in front of what has been read. -/
def Parsed.after (given : List (Key × Option String)) (p : Parsed Key) : Parsed Key :=
  ⟨given ++ p.given, p.rest⟩

/-- A word in front of the other words. -/
def Parsed.withWord (word : String) (p : Parsed Key) : Parsed Key :=
  ⟨p.given, word :: p.rest⟩

/-- An option that awaits its value, and how it was written. -/
abbrev Awaited (Key : Type) := Option (String × Key)

/-- The options in a word, and the last one if its value is awaited. -/
abbrev Said (Key : Type) := List (Key × Option String) × Awaited Key

/-- The complaint about an unknown option. -/
def unknownOption (name : String) : String :=
  "No such option " ++ Text.quote name ++ "."

/-- The complaint about an option without its value. -/
def missingValue (name : String) : String :=
  "Option " ++ Text.quote name ++ " requires an argument."

/-- The complaint about a value of an option that has none. -/
def needlessValue (name : String) : String :=
  "Option " ++ Text.quote name ++ " does not take a value."

/-- Reads the letters after a single dash. -/
def readShort (forms : List (Form Key)) : List Char → Except String (Said Key)
  | [] => .ok ([], none)
  | c :: rest =>
      let name := String.ofList ['-', c]
      match forms.find? (fun f => f.short == some c) with
      | none => .error (unknownOption name)
      | some f =>
          if f.takesValue then
            if rest.isEmpty then .ok ([], some (name, f.key))
            else .ok ([(f.key, some (String.ofList rest))], none)
          else do
            let (given, awaited) ← readShort forms rest
            return ((f.key, none) :: given, awaited)

/-- Reads a word that starts with a dash. -/
def readOption (forms : List (Form Key)) (word : String) : Except String (Said Key) :=
  let (name, value) := Text.cutAt '=' word.toList
  let name := String.ofList name
  match forms.find? (fun f => f.long == some name) with
  | some f =>
      match f.takesValue, value with
      | true, some value => .ok ([(f.key, some (String.ofList value))], none)
      | true, none => .ok ([], some (name, f.key))
      | false, some _ => .error (needlessValue name)
      | false, none => .ok ([(f.key, none)], none)
  | none =>
      match word.toList with
      | '-' :: '-' :: _ => .error (unknownOption name)
      | '-' :: letters => readShort forms letters
      | _ => .error (unknownOption name)

/-- Whether a word starts with a dash and is more than that. -/
def isOption (word : String) : Bool :=
  match word.toList with
  | '-' :: _ :: _ => true
  | _ => false

/-- Reads a command line. Where words and options may not be mixed, the first word ends the options. -/
def parse (forms : List (Form Key)) (mixed : Bool) :
    (awaited : Awaited Key) → List String → Except String (Parsed Key)
  | some (name, _), [] => .error (missingValue name)
  | some (_, key), value :: rest => Parsed.after [(key, some value)] <$> parse forms mixed none rest
  | none, [] => .ok ⟨[], []⟩
  | none, word :: rest =>
      if word = "--" then .ok ⟨[], rest⟩
      else if isOption word then do
        let (given, awaited) ← readOption forms word
        Parsed.after given <$> parse forms mixed awaited rest
      else if mixed then Parsed.withWord word <$> parse forms mixed none rest
      else .ok ⟨[], word :: rest⟩

namespace Parsed

variable [DecidableEq Key]

def has (p : Parsed Key) (key : Key) : Bool :=
  p.given.any (fun g => g.1 = key)

def values (p : Parsed Key) (key : Key) : List String :=
  p.given.filterMap (fun g => if g.1 = key then g.2 else none)

/-- The value of an option that counts, the last one. -/
def value? (p : Parsed Key) (key : Key) : Option String :=
  (p.values key).getLast?

end Parsed

end CommandLine
end Killswitch
