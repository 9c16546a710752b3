import Killswitch.Text.Blank
import Killswitch.Text.Digit

/-!
# Integers in text

How an integer is read from a text: blanks around it, a sign, perhaps the mark of its base, and
digits, which may be decimal digits of any script.

**Limit.** A decimal has a largest number of digits, for reading as well as for writing. A decimal
that starts with too many of them is refused as too long, whatever follows.

**Contents.**
* `asciiDigits`: a text without the blanks around it, with the digits of all scripts as ASCII ones;
* `readInteger`: the integer that a text spells in a base;
* `IntegerFault`: why it spells none.
-/

namespace Killswitch
namespace Decimal

/-- The most digits that a decimal integer may have. -/
def longestInteger : Nat :=
  4300

/-- What is said of an integer that is too long; `digits` is their number where it is known. -/
def limitText (digits : Option Nat) : String :=
  "Exceeds the limit (" ++ toString longestInteger ++ " digits) for integer string conversion"
    ++ (digits.map (fun n => ": value has " ++ toString n ++ " digits")).getD ""
    ++ "; use sys.set_int_max_str_digits() to increase the limit"

/-- A reason why a text is no integer. -/
inductive IntegerFault where
  | malformed (base : Nat)
  | tooLong (digits : Nat)
  deriving DecidableEq, Repr

/-- The most characters that the fault of an integer quotes. -/
def longestQuote : Nat :=
  200

/-- The fault in words, given the text between its quotes. -/
def IntegerFault.message (quoted : String) : IntegerFault → String
  | .malformed base =>
      "invalid literal for int() with base " ++ toString base ++ ": "
        ++ String.ofList (quoted.toList.take longestQuote)
  | .tooLong digits => limitText (some digits)

/-! ## Reading -/

/-- Whether a character may stand around a number: white space, but no separator of information. -/
def isMargin (c : Char) : Bool :=
  Text.isBlank c && !('\x1c' ≤ c && c ≤ '\x1f')

/-- A text without blanks around it, and with ASCII digits for those of all scripts. -/
def asciiDigits (s : List Char) : List Char :=
  ((s.dropWhile isMargin).reverse.dropWhile isMargin).reverse.map (fun c =>
    match Text.digitValue? c with
    | some n => Char.ofNat (48 + n)
    | none => c)

/-- The value of a letter or digit as a digit. -/
def digitOf? (c : Char) : Option Nat :=
  if c.isDigit then some (c.toNat - 48)
  else if 'a' ≤ c ∧ c ≤ 'z' then some (c.toNat - 87)
  else if 'A' ≤ c ∧ c ≤ 'Z' then some (c.toNat - 55)
  else none

/-- The number that digits of a base spell. -/
def natural? (base : Nat) (s : List Char) : Option Nat :=
  if s = [] then none
  else
    s.foldl (fun acc c => do
      let n ← acc
      let d ← digitOf? c
      if d < base then some (base * n + d) else none) (some 0)

def baseLetter? (base : Nat) : Option Char :=
  if base = 2 then some 'b' else if base = 8 then some 'o' else if base = 16 then some 'x' else none

def withoutBaseMark (base : Nat) (s : List Char) : List Char :=
  match s with
  | '0' :: c :: rest => if some c.toLower = baseLetter? base ∧ rest ≠ [] then rest else s
  | s => s

/-- The integer that a text spells, with a sign and blanks around it. -/
def readInteger (base : Nat) (s : List Char) : Except IntegerFault Int :=
  let (negative, digits) :=
    match asciiDigits s with
    | '-' :: rest => (true, rest)
    | '+' :: rest => (false, rest)
    | rest => (false, rest)
  let length := (digits.takeWhile Char.isDigit).length
  if base = 10 ∧ longestInteger < length then .error (.tooLong length)
  else
    match natural? base (withoutBaseMark base digits) with
    | none => .error (.malformed base)
    | some n => .ok (if negative then -(n : Int) else n)

end Decimal
end Killswitch
