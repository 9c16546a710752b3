import Killswitch.Text.Hex
import Killswitch.Text.Printable

/-!
# Quoted text

The form in which names and values are shown inside messages: between quotes, with an escape for
every character that would not be seen as itself.

**Rules.**
* Single quotes are used unless the text holds a single quote and no double one.
* The backslash and the quote in use take a backslash; line feed, carriage return and tab have
  letters of their own.
* Every other unprintable character is written by its number, in two, four or eight digits.
-/

namespace Killswitch
namespace Text

/-- The quote that a text is written between. -/
def quoteMark (s : List Char) : Char :=
  if s.contains '\'' && !s.contains '"' then '"' else '\''

/-- A character by its number, in the shortest of three widths. -/
def numericEscape (n : Nat) : List Char :=
  if n < 0x100 then ['\\', 'x'] ++ hexPadded 2 n
  else if n < 0x10000 then ['\\', 'u'] ++ hexPadded 4 n
  else ['\\', 'U'] ++ hexPadded 8 n

/-- A character as it stands between quotes of the given kind. -/
def quoteChar (mark c : Char) : List Char :=
  if c = mark ∨ c = '\\' then ['\\', c]
  else if c = '\n' then ['\\', 'n']
  else if c = '\r' then ['\\', 'r']
  else if c = '\t' then ['\\', 't']
  else if isPrintable c then [c]
  else numericEscape c.toNat

def quote (s : String) : String :=
  let mark := quoteMark s.toList
  String.ofList ([mark] ++ s.toList.flatMap (quoteChar mark) ++ [mark])

/-- A byte between quotes: visible ASCII is shown as itself. -/
def quoteByte (mark : Char) (b : UInt8) : List Char :=
  let c := Char.ofNat b.toNat
  if 0x20 ≤ b.toNat ∧ b.toNat < 0x7f ∨ c = '\n' ∨ c = '\r' ∨ c = '\t' then quoteChar mark c
  else numericEscape b.toNat

/-- Bytes between quotes, after a letter that says so. -/
def quoteBytes (bytes : List UInt8) : String :=
  let mark := quoteMark (bytes.map (fun b => Char.ofNat b.toNat))
  String.ofList (['b', mark] ++ bytes.flatMap (quoteByte mark) ++ [mark])

end Text
end Killswitch
