import Killswitch.Expression.Fault

/-!
# Numbers in expressions

A number is an integer of base ten, two, eight or sixteen, or a decimal with a fraction or an exponent;
a letter behind a decimal makes it imaginary. Single underscores may separate digits. No letter may
follow a number without a gap, unless it starts one of the words that can stand behind a value.

**Contents.**
* `Number.rest`: the text after the number at the start of a text;
* `Number.excess?`: the digits of a decimal integer that has too many of them;
* `Number.integer?`, `Number.isImaginary`: what a number is.
-/

namespace Killswitch
namespace Expression
namespace Number

/-! ## The end of a number -/

/-- Whether a character can be inside a word of ASCII. -/
def isAsciiWord (c : Char) : Bool :=
  c.isAlphanum || c == '_'

/-- Whether a character is taken for a part of a word. -/
def mayBeInWord (c : Char) : Bool :=
  isAsciiWord c || 0x80 ≤ c.toNat

/-- The words that may follow a number without a gap. -/
def followers : List (List Char) :=
  ["and", "else", "for", "or", "not"].map String.toList

/-- The starts of such words, however they go on. -/
def followerStarts : List (List Char) :=
  ["if", "in", "is"].map String.toList

/-- Whether a text starts with such a word. -/
def startsFollower (s : List Char) : Bool :=
  followerStarts.any (·.isPrefixOf s)
    || followers.any (fun word => word.isPrefixOf s && !(s.drop word.length).head?.any mayBeInWord)

/-- The text after a number, which must end there. -/
def ended (kind : String) (s : List Char) : Except Fault (List Char) :=
  if startsFollower s || !s.head?.any isAsciiWord then .ok s else .error (.number kind)

/-! ## Digits -/

/-- The text after digits that single underscores may separate. -/
def afterDigits : (fuel : Nat) → List Char → Except Fault (List Char)
  | 0, s => .ok s
  | fuel + 1, s =>
      match s.dropWhile Char.isDigit with
      | '_' :: rest =>
          if rest.head?.any Char.isDigit then afterDigits fuel rest else .error (.number "decimal")
      | rest => .ok rest

/-- The text after the digits at its start. -/
def digitsRest (s : List Char) : Except Fault (List Char) :=
  afterDigits s.length s

/-- The text after the zeros at its start. -/
def afterZeros : List Char → Except Fault (List Char)
  | '0' :: rest => afterZeros rest
  | '_' :: c :: rest =>
      if c = '0' then afterZeros rest
      else if c.isDigit then .ok (c :: rest)
      else .error (.number "decimal")
  | ['_'] => .error (.number "decimal")
  | s => .ok s

/-- The text after digits of a base, with an underscore in front of any group. -/
def basedRest (size : Nat) (kind : String) : (fuel : Nat) → List Char → Except Fault (List Char)
  | 0, s => .ok s
  | fuel + 1, s =>
      let isOfBase (c : Char) : Bool := (Text.hexValue? c).any (· < size)
      let group := if s.head? = some '_' then s.drop 1 else s
      match group with
      | c :: _ =>
          if isOfBase c then
            match group.dropWhile isOfBase with
            | '_' :: rest => basedRest size kind fuel ('_' :: rest)
            | d :: rest =>
                if d.isDigit then .error (.digit d kind) else ended kind (d :: rest)
            | [] => .ok []
          else if c.isDigit then .error (.digit c kind)
          else .error (.number kind)
      | [] => .error (.number kind)

/-! ## Decimals -/

/-- The text after the end of a number that may be imaginary. -/
def imaginaryRest : List Char → Except Fault (List Char)
  | c :: rest =>
      if c = 'j' ∨ c = 'J' then ended "imaginary" rest else ended "decimal" (c :: rest)
  | [] => .ok []

/-- The text after an exponent, if there is one, and the end of the number. -/
def exponentRest : List Char → Except Fault (List Char)
  | c :: rest =>
      if c = 'e' ∨ c = 'E' then
        match rest with
        | d :: more =>
            if d = '+' ∨ d = '-' then
              if more.head?.any Char.isDigit then do imaginaryRest (← digitsRest more)
              else .error (.number "decimal")
            else if d.isDigit then do imaginaryRest (← digitsRest rest)
            else ended "decimal" (c :: rest)
        | [] => ended "decimal" [c]
      else imaginaryRest (c :: rest)
  | [] => .ok []

/-- The text after a fraction and the rest of the number. -/
def fractionRest (s : List Char) : Except Fault (List Char) := do
  if s.head?.any Char.isDigit then exponentRest (← digitsRest s) else exponentRest s

/-- The text after the whole part and the rest of the number. -/
def decimalRest : List Char → Except Fault (List Char)
  | '.' :: rest => fractionRest rest
  | s => exponentRest s

/-- Whether a text goes on with what makes a decimal of an integer. -/
def goesOn (s : List Char) : Bool :=
  s.head?.any ['.', 'e', 'E', 'j', 'J'].contains

/-- The text after a number that starts with a zero; an integer with zeros in front is none. -/
def zeroRest (s : List Char) : Except Fault (List Char) := do
  let rest ← afterZeros s
  if rest.head?.any Char.isDigit then
    let rest ← digitsRest rest
    if goesOn rest then decimalRest rest else throw .leadingZeros
  else decimalRest rest

/-- The bases with a letter of their own. -/
def base? (letter : Char) : Option (Nat × String) :=
  if letter = 'x' then some (16, "hexadecimal")
  else if letter = 'o' then some (8, "octal")
  else if letter = 'b' then some (2, "binary")
  else none

/-- The text after the number at its start. -/
def rest (s : List Char) : Except Fault (List Char) :=
  match s with
  | '.' :: fraction => fractionRest fraction
  | '0' :: letter :: digits =>
      match base? letter.toLower with
      | some (size, kind) => basedRest size kind (digits.length + 1) digits
      | none => zeroRest s
  | '0' :: [] => .ok []
  | s => do decimalRest (← digitsRest s)

/-- The digits of a decimal integer that has too many of them. -/
def excess? (lexeme : List Char) : Option Nat :=
  let digits := lexeme.filter (· != '_')
  if digits.all Char.isDigit && digits.head? != some '0' && Decimal.longestInteger < digits.length then
    some digits.length
  else none

/-- The value of a number, if it is an integer. -/
def integer? (lexeme : List Char) : Option Nat :=
  let digits := lexeme.filter (· != '_')
  match digits with
  | '0' :: letter :: based =>
      match base? letter.toLower with
      | some (size, _) => Decimal.natural? size based
      | none => Decimal.natural? 10 digits
  | _ => Decimal.natural? 10 digits

def isImaginary (lexeme : List Char) : Bool :=
  lexeme.getLast?.any ['j', 'J'].contains

end Number
end Expression
end Killswitch
