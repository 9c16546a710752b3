import Killswitch.Text.Search

/-!
# Base 64

Binary scalars hold bytes in groups of four letters for three bytes. Characters outside the alphabet
are passed over; the padding must complete the last group, and what follows it is not read.
-/

namespace Killswitch
namespace Yaml
namespace Base64

/-- The six bits of a letter of the alphabet. -/
def value? (c : Char) : Option Nat :=
  if 'A' ≤ c ∧ c ≤ 'Z' then some (c.toNat - 65)
  else if 'a' ≤ c ∧ c ≤ 'z' then some (c.toNat - 71)
  else if c.isDigit then some (c.toNat + 4)
  else if c = '+' then some 62
  else if c = '/' then some 63
  else none

/-- Reads letters after `count` of a group, whose open bits are `bits`, with `padding` marks since the
last one. -/
def decodeFrom (count bits padding : Nat) : List Char → Option (List UInt8)
  | [] => if count = 0 then some [] else none
  | '=' :: rest =>
      if 2 ≤ count ∧ 4 ≤ count + padding + 1 then some []
      else decodeFrom count bits (if 2 ≤ count then padding + 1 else padding) rest
  | c :: rest =>
      match value? c with
      | none => decodeFrom count bits padding rest
      | some v =>
          match count with
          | 0 => decodeFrom 1 v 0 rest
          | 1 => (UInt8.ofNat (bits * 4 + v / 16) :: ·) <$> decodeFrom 2 (v % 16) 0 rest
          | 2 => (UInt8.ofNat (bits * 16 + v / 4) :: ·) <$> decodeFrom 3 (v % 4) 0 rest
          | _ => (UInt8.ofNat (bits * 64 + v) :: ·) <$> decodeFrom 0 0 0 rest

/-- The bytes that a text holds; only ASCII text holds any. -/
def decode? (text : List Char) : Option (List UInt8) :=
  if text.all (fun c => decide (c.toNat < 0x80)) then decodeFrom 0 0 0 text else none

end Base64
end Yaml
end Killswitch
