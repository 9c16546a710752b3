import Killswitch.Text.Blank

/-!
# IPv4 addresses

A dotted quad in its one strict spelling: four decimal numbers of at most three ASCII digits, none
above 255, none with a leading zero. Since each number has one spelling, so has each address.

**Contents.**
* `V4`: the four octets;
* `V4.ofChars?`: the reader;
* `V4.toChars`: the writer.
-/

namespace Killswitch
namespace Address

/-- An IPv4 address as its four octets, the first one most significant. -/
structure V4 where
  a : UInt8
  b : UInt8
  c : UInt8
  d : UInt8
  deriving DecidableEq, Repr

/-- The number that ASCII digits spell. -/
def decimal? (digits : List Char) : Option Nat :=
  if digits.all Char.isDigit then
    some (digits.foldl (fun acc c => 10 * acc + (c.toNat - 48)) 0)
  else none

/-- The octet that some text spells strictly. -/
def octet? (s : List Char) : Option UInt8 :=
  match s, decimal? s with
  | [], _ => none
  | _, none => none
  | first :: more, some n =>
      if more.length ≤ 2 ∧ (more = [] ∨ first ≠ '0') ∧ n ≤ 255 then some (UInt8.ofNat n) else none

/-- The address that some text spells strictly. -/
def V4.ofChars? (s : List Char) : Option V4 :=
  match (Text.pieces (· == '.') s).map octet? with
  | [some a, some b, some c, some d] => some ⟨a, b, c, d⟩
  | _ => none

def octetChars (n : UInt8) : List Char :=
  Nat.toDigits 10 n.toNat

def V4.toChars (v : V4) : List Char :=
  octetChars v.a ++ '.' :: octetChars v.b ++ '.' :: octetChars v.c ++ '.' :: octetChars v.d

def V4.toNat (v : V4) : Nat :=
  ((v.a.toNat * 256 + v.b.toNat) * 256 + v.c.toNat) * 256 + v.d.toNat

end Address
end Killswitch
