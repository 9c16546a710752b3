import Killswitch.Decimal.Shortest

/-!
# Decimal notation

How a double is written and read in documents.

**Writing.** The shortest decimal, with the point in place from one ten-thousandth to below ten
quadrillions and a signed exponent of at least two digits outside; a whole number keeps one zero
after its point.

**Reading.** A sign, digits with at most one point, and an exponent; or a name of infinity or of
the undefined number.
-/

namespace Killswitch
namespace Decimal

def exponentText (e : Int) : String :=
  let digits := toString e.natAbs
  (if e < 0 then "e-" else "e+") ++ (if digits.length < 2 then "0" else "") ++ digits

def stripZeros (digits : List Char) : List Char :=
  (digits.reverse.dropWhile (· == '0')).reverse

/-- A positive decimal in its written form. -/
def Digits.toString (d : Digits) : String :=
  let all := Nat.toDigits 10 d.digits
  let digits := stripZeros all
  let point : Int := all.length + d.exponent
  let zeros (n : Nat) : List Char := List.replicate n '0'
  if point ≤ -4 ∨ 16 < point then
    let tail := if digits.length ≤ 1 then [] else '.' :: digits.drop 1
    String.ofList (digits.take 1 ++ tail) ++ exponentText (point - 1)
  else if point ≤ 0 then
    String.ofList (['0', '.'] ++ zeros (-point).toNat ++ digits)
  else if (digits.length : Int) ≤ point then
    String.ofList (digits ++ zeros (point.toNat - digits.length) ++ ['.', '0'])
  else
    String.ofList (digits.take point.toNat ++ '.' :: digits.drop point.toNat)

def toText (x : Float) : String :=
  if x.isNaN then "nan"
  else if x.isInf then (if x < 0 then "-inf" else "inf")
  else
    let b := Binary.ofBits x.toBits.toNat
    (if b.negative then "-" else "")
      ++ (if b.mantissa = 0 then "0.0" else (shortest b).toString)

/-- The number that ASCII digits spell. -/
def natOfDigits (digits : List Char) : Nat :=
  digits.foldl (fun acc c => 10 * acc + (c.toNat - 48)) 0

/-- The double nearest to `digits * 10 ^ exponent`; no power is computed far outside the range. -/
def nearest (digits : Nat) (exponent : Int) : Float :=
  let size : Int := (Nat.toDigits 10 digits).length
  if digits = 0 ∨ size + exponent < -400 then 0.0
  else if 400 < size + exponent then 1.0 / 0.0
  else Float.ofScientific digits (exponent < 0) exponent.natAbs

/-- The exponent of a number, which may be left out. -/
def exponent? : List Char → Option Int
  | [] => some 0
  | c :: rest =>
      if c ≠ 'e' ∧ c ≠ 'E' then none
      else
        let (negative, digits) :=
          match rest with
          | '-' :: digits => (true, digits)
          | '+' :: digits => (false, digits)
          | digits => (false, digits)
        if digits ≠ [] ∧ digits.all Char.isDigit then
          some (if negative then -(natOfDigits digits : Int) else natOfDigits digits)
        else none

/-- The double that digits around at most one point and an exponent spell. -/
def unsigned? (s : List Char) : Option Float :=
  let name := String.ofList (s.map Char.toLower)
  if name = "inf" ∨ name = "infinity" then some (1.0 / 0.0)
  else if name = "nan" then some (0.0 / 0.0)
  else
    let whole := s.takeWhile Char.isDigit
    let (fraction, rest) :=
      match s.dropWhile Char.isDigit with
      | '.' :: rest => (rest.takeWhile Char.isDigit, rest.dropWhile Char.isDigit)
      | rest => ([], rest)
    if whole = [] ∧ fraction = [] then none
    else
      (exponent? rest).map
        (fun e => nearest (natOfDigits (whole ++ fraction)) (e - fraction.length))

/-- The double that a text spells. -/
def ofText? : List Char → Option Float
  | '-' :: rest => (unsigned? rest).map (fun x => -x)
  | '+' :: rest => unsigned? rest
  | s => unsigned? s

end Decimal
end Killswitch
