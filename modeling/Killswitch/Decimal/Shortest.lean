/-!
# Shortest decimals

Every finite binary number of double precision is the nearest one to a whole interval of reals. Of
the decimals in that interval the ones with the fewest digits are the shortest, and the nearest of
those is its decimal.

**Algorithm.** The number is a fraction. For one digit, two digits and so on up to seventeen, the
two neighbours of the fraction on the grid of that many digits are tested against the interval, in
whole numbers; the first grid with a hit wins.

**Contents.**
* `Binary`: a finite number as sign, mantissa and exponent;
* `Digits`: a decimal as its digits and the place of the point;
* `shortest`: the decimal.
-/

namespace Killswitch
namespace Decimal

/-- A finite binary number: sign, mantissa and the exponent of two. -/
structure Binary where
  negative : Bool
  mantissa : Nat
  exponent : Int
  deriving DecidableEq, Repr

/-- The bits of a double: its sign, the biased exponent and the fraction. -/
def Binary.ofBits (bits : Nat) : Binary :=
  let fraction : Nat := bits % Nat.pow 2 52
  let biased : Nat := bits / Nat.pow 2 52 % 2048
  { negative := bits / Nat.pow 2 63 % 2 == 1
    mantissa := if biased = 0 then fraction else fraction + Nat.pow 2 52
    exponent := (if biased = 0 then 1 else (biased : Int)) - 1075 }

/-- A decimal: its digits as a number, and the power of ten of the last one. -/
structure Digits where
  digits : Nat
  exponent : Int
  deriving DecidableEq, Repr

/-- A positive fraction with the ends of its interval, all over one denominator, and whether the ends
belong to it. -/
structure Interval where
  low : Nat
  value : Nat
  high : Nat
  denominator : Nat
  closed : Bool
  deriving DecidableEq, Repr

/-- The interval of a positive binary number: half the way to its neighbours. -/
def Interval.ofBinary (b : Binary) : Interval :=
  let scale := b.exponent - 2
  let up := Nat.pow 2 scale.toNat
  let nearBelow := b.mantissa = Nat.pow 2 52 ∧ -1074 < b.exponent
  { low := (4 * b.mantissa - (if nearBelow then 1 else 2)) * up
    value := 4 * b.mantissa * up
    high := (4 * b.mantissa + 2) * up
    denominator := Nat.pow 2 (-scale).toNat
    closed := b.mantissa % 2 == 0 }

/-- Whether `n` units of the grid `10 ^ e` lie in the interval. -/
def Interval.holds (i : Interval) (n : Nat) (e : Int) : Bool :=
  let left := n * Nat.pow 10 e.toNat * i.denominator
  let up := Nat.pow 10 (-e).toNat
  if i.closed then i.low * up ≤ left && left ≤ i.high * up
  else i.low * up < left && left < i.high * up

/-- The power of ten of the first digit of a positive fraction. -/
def leadingExponent (numerator denominator : Nat) : Int :=
  if denominator ≤ numerator then ((Nat.toDigits 10 (numerator / denominator)).length : Int) - 1
  else
    match (List.range 400).find? (fun j => denominator ≤ numerator * Nat.pow 10 j) with
    | some j => -(j : Int)
    | none => 0

/-- The nearest grid point in the interval, the even one of two. -/
def Interval.nearest? (i : Interval) (e : Int) : Option Nat :=
  let numerator := i.value * Nat.pow 10 (-e).toNat
  let unit := i.denominator * Nat.pow 10 e.toNat
  let below := numerator / unit
  let rest := numerator % unit
  let upper := 2 * rest > unit ∨ (2 * rest = unit ∧ below % 2 = 1)
  match i.holds below e, i.holds (below + 1) e with
  | true, true => some (if upper then below + 1 else below)
  | true, false => some below
  | false, true => some (below + 1)
  | false, false => none

/-- The decimal with the fewest digits in the interval, and the nearest of those. -/
def Interval.shortest (i : Interval) : Digits :=
  let top := leadingExponent i.value i.denominator
  match (List.range 17).findSome? (fun (n : Nat) =>
    (i.nearest? (top - n)).map (fun digits => (⟨digits, top - n⟩ : Digits))) with
  | some d => d
  | none => ⟨0, 0⟩

def shortest (b : Binary) : Digits :=
  (Interval.ofBinary b).shortest

end Decimal
end Killswitch
