import Killswitch.Failure
import Killswitch.Text.Blank
import Killswitch.Text.Hex
import Killswitch.Text.LetterCase

/-!
# Colours

A colour is a word of a palette, a number of the palette, or a mixture of red, green and blue. Its name
is the word in lower case: two spellings are the same colour only if they have the same name.

**Contents.**
* `Color.palette`: the words of the palette;
* `Color.name?`: the name of the colour that a word means.
-/

namespace Killswitch
namespace Color

/-- The colours that have one shade only. -/
def plainNames : List String := [
  "black", "white", "bright_black", "bright_red", "bright_green", "bright_yellow", "bright_blue",
  "bright_magenta", "bright_cyan", "bright_white", "navy_blue", "dark_blue", "dark_green",
  "dark_cyan", "light_sea_green", "dark_turquoise", "medium_spring_green", "dark_red",
  "blue_violet", "cornflower_blue", "cadet_blue", "medium_turquoise", "dark_magenta", "dark_violet",
  "light_slate_grey", "light_slate_gray", "light_slate_blue", "light_green", "medium_violet_red",
  "dark_goldenrod", "rosy_brown", "dark_khaki", "green_yellow", "violet", "tan", "light_coral",
  "sandy_brown"]

/-- The colours with shades, and their numbers; the shade zero has none. -/
def shades : List (String × List Nat) := [
  ("red", [0, 1, 3]), ("green", [0, 1, 3, 4]), ("yellow", [0, 1, 2, 3, 4]), ("blue", [0, 1, 3]),
  ("magenta", [0, 1, 2, 3]), ("cyan", [0, 1, 2, 3]), ("deep_sky_blue", [1, 2, 3, 4]),
  ("dodger_blue", [1, 2, 3]), ("spring_green", [1, 2, 3, 4]), ("turquoise", [2, 4]),
  ("deep_pink", [1, 2, 3, 4]), ("purple", [0, 3, 4]), ("orange", [1, 3, 4]),
  ("medium_purple", [0, 1, 2, 3, 4]), ("slate_blue", [1, 3]), ("royal_blue", [1]),
  ("chartreuse", [1, 2, 3, 4]), ("dark_sea_green", [0, 1, 2, 3, 4]), ("pale_turquoise", [1, 4]),
  ("steel_blue", [0, 1, 3]), ("sky_blue", [1, 2, 3]), ("pale_green", [1, 3]),
  ("sea_green", [1, 2, 3]), ("aquamarine", [1, 3]), ("dark_slate_gray", [1, 2, 3]),
  ("light_pink", [1, 3, 4]), ("plum", [1, 2, 3, 4]), ("wheat", [1, 4]),
  ("dark_olive_green", [1, 2, 3]), ("light_sky_blue", [1, 3]), ("dark_orange", [0, 3]),
  ("indian_red", [0, 1]), ("hot_pink", [0, 2, 3]), ("medium_orchid", [0, 1, 3]),
  ("light_salmon", [1, 3]), ("gold", [1, 3]), ("navajo_white", [1, 3]),
  ("light_steel_blue", [0, 1, 3]), ("light_cyan", [1, 3]), ("orchid", [0, 1, 2]), ("pink", [1, 3]),
  ("light_goldenrod", [1, 2, 3]), ("misty_rose", [1, 3]), ("thistle", [1, 3]), ("khaki", [1, 3]),
  ("light_yellow", [3]), ("honeydew", [2]), ("orange_red", [1]), ("salmon", [1]),
  ("pale_violet_red", [1]), ("cornsilk", [1])]

/-- The shades of grey, in percent. -/
def greys : List Nat := [
  0, 3, 7, 11, 15, 19, 23, 27, 30, 35, 37, 39, 42, 46, 50, 53, 54, 58, 62, 63, 66, 69, 70, 74, 78,
  82, 84, 85, 89, 93, 100]

/-- A colour with the number of a shade. -/
def shade (name : String) (n : Nat) : String :=
  if n = 0 then name else name ++ toString n

def palette : List String :=
  plainNames ++ shades.flatMap (fun (name, numbers) => numbers.map (shade name))
    ++ greys.flatMap (fun n => ["grey" ++ toString n, "gray" ++ toString n])

/-- What stands between an opening and the last bracket. -/
def inside? (opening : String) (word : List Char) : Option (List Char) :=
  if opening.toList.isPrefixOf word && word.getLast? = some ')' then
    some ((word.drop opening.length).dropLast)
  else none

/-- Whether a word is six hexadecimal digits after a hash sign. -/
def isHex : List Char → Bool
  | '#' :: digits => digits.length == 6 && (Text.hexNumber? digits).isSome
  | _ => false

/-- Whether a word is a number of the palette. -/
def isNumbered (word : List Char) : Bool :=
  match inside? "color(" word with
  | some digits =>
      1 ≤ digits.length && digits.length ≤ 3 && digits.all (fun c => '0' ≤ c && c ≤ '9')
        && (Decimal.natural? 10 digits).any (· ≤ 255)
  | none => false

/-- A part of a mixture. -/
def component (digits : List Char) : Except Failure Int :=
  (Decimal.readInteger 10 digits).mapError (.integer digits)

/-- Whether a word is a mixture: three numbers up to 255, all of which must be readable. -/
def isMixture (word : List Char) : Except Failure Bool :=
  match inside? "rgb(" word with
  | some body =>
      let numbers := Text.pieces (· == ',') body
      if !body.isEmpty && body.all (fun c => Text.isDigit c || c == ',') && numbers.length == 3 then do
        return (← numbers.mapM component).all (· ≤ 255)
      else .ok false
  | none => .ok false

/-- The name of the colour that a word means. -/
def name? (word : List Char) : Except Failure (Option (List Char)) := do
  let word := Text.lower word
  let known :=
    word == "default".toList || palette.contains (String.ofList word) || isHex word
      || isNumbered word
  return if known || (← isMixture word) then some word else none

end Color
end Killswitch
