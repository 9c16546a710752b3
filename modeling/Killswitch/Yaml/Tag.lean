import Killswitch.Text.Blank
import Killswitch.Text.Hex
import Killswitch.Yaml.Timestamp

/-!
# Tags

The type of a node, declared by its author or, for a plain scalar, read off its text.

**Plain scalars.** The first character of the text says which types come into question; the text
must follow the form of one of them, up to one line feed at its end, or it is a string.
-/

namespace Killswitch
namespace Yaml

/-- The types that documents know; `unknown` stands for all others. -/
inductive Tag where
  | null
  | truth
  | integer
  | real
  | binary
  | timestamp
  | text
  | sequence
  | mapping
  | set
  | pairs
  | merge
  | default
  | unknown
  deriving DecidableEq, Repr

namespace Tag

/-- The type that a full tag names. -/
def ofAddress (address : String) : Tag :=
  match address with
  | "tag:yaml.org,2002:null" => .null
  | "tag:yaml.org,2002:bool" => .truth
  | "tag:yaml.org,2002:int" => .integer
  | "tag:yaml.org,2002:float" => .real
  | "tag:yaml.org,2002:binary" => .binary
  | "tag:yaml.org,2002:timestamp" => .timestamp
  | "tag:yaml.org,2002:str" => .text
  | "tag:yaml.org,2002:seq" => .sequence
  | "tag:yaml.org,2002:map" => .mapping
  | "tag:yaml.org,2002:set" => .set
  | "tag:yaml.org,2002:omap" => .pairs
  | "tag:yaml.org,2002:pairs" => .pairs
  | "tag:yaml.org,2002:merge" => .merge
  | "tag:yaml.org,2002:value" => .default
  | _ => .unknown

/-! ## The forms of plain scalars -/

/-- Whether a text is not empty and of one class. -/
def isRun (inClass : Char → Bool) (s : List Char) : Bool :=
  !s.isEmpty && s.all inClass

/-- A digit, or the mark that may separate digits. -/
def isDigitOrMark (c : Char) : Bool :=
  c.isDigit || c == '_'

/-- A text without its sign. -/
def unsigned (s : List Char) : List Char :=
  match s with
  | '+' :: rest => rest
  | '-' :: rest => rest
  | s => s

/-- Whether a text is a digit and then digits and marks. -/
def isDigits (s : List Char) : Bool :=
  (s.headD ' ').isDigit && s.all isDigitOrMark

/-- Whether a text is a number below sixty. -/
def isSixtieth : List Char → Bool
  | [d] => d.isDigit
  | [t, d] => '0' ≤ t && t ≤ '5' && d.isDigit
  | _ => false

/-- Whether a text is digits and then, after colons, numbers below sixty. -/
def isSexagesimal (s : List Char) : Bool :=
  match Text.pieces (· == ':') s with
  | first :: second :: more => isDigits first && (second :: more).all isSixtieth
  | _ => false

/-- Integers, in any base. -/
def isInteger (s : List Char) : Bool :=
  match unsigned s with
  | ['0'] => true
  | '0' :: rest =>
      isRun (fun c => ('0' ≤ c && c ≤ '7') || c == '_') rest
        || (rest.headD ' ' == 'b' && isRun (fun c => c == '0' || c == '1' || c == '_') (rest.drop 1))
        || (rest.headD ' ' == 'x'
          && isRun (fun c => (Text.hexValue? c).isSome || c == '_') (rest.drop 1))
  | s => isDigits s || isSexagesimal s

/-- An exponent, which needs its sign. -/
def isExponent : List Char → Bool
  | [] => true
  | e :: sign :: digits =>
      (e == 'e' || e == 'E') && (sign == '+' || sign == '-') && isRun Char.isDigit digits
  | _ => false

/-- What follows the point of a real number. -/
def isFraction (s : List Char) : Bool :=
  isExponent (s.dropWhile isDigitOrMark)

/-- Real numbers, which always have a point. -/
def isReal (s : List Char) : Bool :=
  let positive := unsigned s
  let whole := positive.takeWhile (· != '.')
  let names := [".inf", ".Inf", ".INF"].map String.toList
  let undefinedNames := [".nan", ".NaN", ".NAN"].map String.toList
  match positive.dropWhile (· != '.') with
  | [] => false
  | _ :: fraction =>
      (isDigits whole && isFraction fraction)
        || (isSexagesimal whole && fraction.all isDigitOrMark)
        || (s.headD ' ' == '.' && (fraction.headD ' ').isDigit && isFraction fraction)
        || names.contains positive || undefinedNames.contains s

/-- The spellings of the truth values. -/
def truthWords : List (String × Bool) :=
  [("yes", true), ("no", false), ("true", true), ("false", false), ("on", true), ("off", false)]

/-- The spellings of a word: small, capitalised and all capitals. -/
def spellings (word : String) : List (List Char) :=
  let small := word.toList
  let capitals := small.map Char.toUpper
  [small, capitals.take 1 ++ small.drop 1, capitals]

def isTruth (s : List Char) : Bool :=
  truthWords.any (fun w => (spellings w.1).contains s)

def isNull (s : List Char) : Bool :=
  s == ['~'] || (spellings "null").contains s

def ofPlain (s : List Char) : Tag :=
  let line := if s.getLast? = some '\n' then s.dropLast else s
  match s with
  | [] => .null
  | first :: _ =>
      if first == '\n' then .text
      else if isTruth line then .truth
      else if isReal line then .real
      else if isInteger line then .integer
      else if line == ['<', '<'] then .merge
      else if isNull line then .null
      else if Timestamp.isPlain line then .timestamp
      else if line == ['='] then .default
      else if line == ['!'] || line == ['&'] || line == ['*'] then .unknown
      else .text

end Tag
end Yaml
end Killswitch
