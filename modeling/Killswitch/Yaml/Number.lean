import Killswitch.Decimal.Notation
import Killswitch.Yaml.Fault

/-!
# Numbers in documents

The value of a scalar that is an integer or a real number, be it by its form or because its author
declares it so. In the second case the text may be anything, and the fault names the part of it that
is no number.

**Contents.**
* `readInteger`: an integer in a given base;
* `integer`: the bases and the sexagesimal form;
* `real`: real numbers, their names and the sexagesimal form.
-/

namespace Killswitch
namespace Yaml
namespace Number

/-- The integer that a text spells, with a sign and blanks around it. -/
def readInteger (base : Nat) (s : List Letter) : Except Fault Int :=
  (Decimal.readInteger base (Letter.seen s)).mapError (.integer s)

/-- The sign of a number and the text after it. -/
def sign (s : List Letter) : Except Fault (Int × List Letter) :=
  match s with
  | [] => .error .emptyNumber
  | .char '-' :: rest => .ok (-1, rest)
  | .char '+' :: rest => .ok (1, rest)
  | s => .ok (1, s)

/-- The mark between the parts of a number in base sixty. -/
def colon : Letter :=
  .char ':'

/-- A text without the marks that separate digits. -/
def withoutMarks (s : List Letter) : List Letter :=
  s.filter (· != .char '_')

/-- The value of parts in base sixty, the last one least. -/
def sexagesimal (parts : List Int) : Int :=
  parts.foldl (fun n part => 60 * n + part) 0

def integer (text : List Letter) : Except Fault Int := do
  let (factor, s) ← sign (withoutMarks text)
  match s with
  | [] => throw .emptyNumber
  | [.char '0'] => return 0
  | .char '0' :: .char 'b' :: digits => return factor * (← readInteger 2 digits)
  | .char '0' :: .char 'x' :: digits => return factor * (← readInteger 16 digits)
  | .char '0' :: _ => return factor * (← readInteger 8 s)
  | s =>
      if s.contains colon then
        return factor * sexagesimal (← (Text.pieces (· == colon) s).mapM (readInteger 10))
      else return factor * (← readInteger 10 s)

/-- The real number that a text spells, with blanks around it. -/
def readReal (s : List Letter) : Except Fault Float :=
  match Decimal.ofText? (Decimal.asciiDigits (Letter.seen s)) with
  | some x => .ok x
  | none => .error (.real s)

/-- The sum of parts in base sixty, least part first, each product rounded on its own. -/
def realSexagesimal (parts : List Float) : Except Fault Float :=
  parts.reverse.zipIdx.foldlM (fun sum (part, i) =>
    let unit := Decimal.nearest (Nat.pow 60 i) 0
    if unit.isInf then .error .realRange else .ok (sum + part * unit)) 0.0

/-- The real number that a scalar spells, or nothing for the undefined one. -/
def real (text : List Letter) : Except Fault (Option Float) := do
  let (factor, s) ← sign (Letter.lower (withoutMarks text))
  let signed (x : Float) : Float := if factor < 0 then -x else x
  if s = Letter.ofChars ".inf".toList then return some (signed (1.0 / 0.0))
  else if s = Letter.ofChars ".nan".toList then return none
  else if s.contains colon then do
    let parts ← (Text.pieces (· == colon) s).mapM readReal
    return some (signed (← realSexagesimal parts))
  else return some (signed (← readReal s))

end Number
end Yaml
end Killswitch
