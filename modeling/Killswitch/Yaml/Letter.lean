import Killswitch.Text.LetterCase
import Killswitch.Text.Quoted

/-!
# Letters

The text of a scalar is made of letters: characters, and halves of characters, which an escape can
spell by their numbers alone. A high half and the low half after it stay two letters as long as the
document is read, and make one character where the text leaves the document.

**Contents.**
* `Letter`, `Letter.ofNumber?`: letters, and the letter with a number;
* `Letter.seen`: the text in which no half can be told from another;
* `Letter.toText`: the text with its halves joined;
* `Letter.lower`, `Letter.quote`: a text in lower case, and between quotes.
-/

namespace Killswitch
namespace Yaml

/-- A letter of a scalar: a character, or a half of a large one. -/
inductive Letter where
  | char (c : Char)
  | high (bits : Fin 0x400)
  | low (bits : Fin 0x400)
  deriving DecidableEq, Repr

namespace Letter

def number : Letter → Nat
  | .char c => c.toNat
  | .high bits => 0xd800 + bits
  | .low bits => 0xdc00 + bits

/-- The letter with a number in the range of characters. -/
def ofNumber? (n : Nat) : Option Letter :=
  if 0x110000 ≤ n then none
  else if h : 0xd800 ≤ n ∧ n < 0xdc00 then some (.high ⟨n - 0xd800, by omega⟩)
  else if h : 0xdc00 ≤ n ∧ n < 0xe000 then some (.low ⟨n - 0xdc00, by omega⟩)
  else some (.char (Char.ofNat n))

def ofChars (s : List Char) : List Letter :=
  s.map .char

/-! ## Texts -/

/-- What is shown for a half that stands alone. -/
def replacement : Char :=
  '\uFFFD'

/-- A character, or what is shown for a half. -/
def toChar : Letter → Char
  | .char c => c
  | _ => replacement

/-- A text in which every half is replaced. -/
def seen (s : List Letter) : List Char :=
  s.map toChar

/-- The characters of a text: two halves that fit are one, and every other half is replaced. -/
def toChars : List Letter → List Char
  | [] => []
  | .high a :: .low b :: rest => Char.ofNat (0x10000 + 0x400 * a + b) :: toChars rest
  | .char c :: rest => c :: toChars rest
  | _ :: rest => replacement :: toChars rest

/-- The text that letters spell. Halves that stand alone are replaced, so it does not tell them apart. -/
def toText (s : List Letter) : String :=
  String.ofList (toChars s)

@[simp] theorem toChars_ofChars (s : List Char) :
    toChars (ofChars s) = s := by
  induction s with
  | nil => rfl
  | cons c s ih => simpa [ofChars, toChars] using ih

/-! ## Forms -/

/-- A text in lower case, halves left as they are; `run` holds the characters since the last half,
reversed. -/
def lowerFrom (run : List Char) : List Letter → List Letter
  | [] => ofChars (Text.lower run.reverse)
  | .char c :: rest => lowerFrom (c :: run) rest
  | half :: rest => ofChars (Text.lower run.reverse) ++ half :: lowerFrom [] rest

def lower (s : List Letter) : List Letter :=
  lowerFrom [] s

/-- A letter between quotes; a half is written by its number. -/
def quoteLetter (mark : Char) : Letter → List Char
  | .char c => Text.quoteChar mark c
  | half => Text.numericEscape half.number

/-- A text between quotes. -/
def quote (s : List Letter) : String :=
  let mark := Text.quoteMark (seen s)
  String.ofList ([mark] ++ s.flatMap (quoteLetter mark) ++ [mark])

end Letter
end Yaml
end Killswitch
