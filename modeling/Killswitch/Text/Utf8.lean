import Killswitch.Text.Hex

/-!
# UTF-8

Bytes are read by a machine that knows, between two bytes, how many continuation bytes the
character still owes and in which range the next one must lie. A byte that cannot come next ends
the sequence before it and is read afresh, so the faulty spans are as long as a valid start could
have been and no longer.

**Contents.**
* `encode`: the bytes of a text;
* `decodeLossy`: every faulty span becomes one replacement character;
* `decode?`: the text, or the first faulty span with what is wrong with it;
* `Fault.message`: that fault in words.
-/

namespace Killswitch
namespace Text
namespace Utf8

/-- A character that is not complete: how many bytes are owed, the range of the next one, and the bits
so far. -/
structure Pending where
  owed : Nat
  low : UInt8
  high : UInt8
  bits : Nat
  deriving DecidableEq, Repr

/-- What a byte between two characters can be. -/
inductive Start where
  | whole (c : Char)
  | opens (p : Pending)
  | wrong
  deriving DecidableEq, Repr

def start (b : UInt8) : Start :=
  if b < 0x80 then .whole (Char.ofNat b.toNat)
  else if b < 0xc2 then .wrong
  else if b < 0xe0 then .opens ⟨1, 0x80, 0xbf, b.toNat - 0xc0⟩
  else if b = 0xe0 then .opens ⟨2, 0xa0, 0xbf, 0⟩
  else if b = 0xed then .opens ⟨2, 0x80, 0x9f, 0xd⟩
  else if b < 0xf0 then .opens ⟨2, 0x80, 0xbf, b.toNat - 0xe0⟩
  else if b = 0xf0 then .opens ⟨3, 0x90, 0xbf, 0⟩
  else if b < 0xf4 then .opens ⟨3, 0x80, 0xbf, b.toNat - 0xf0⟩
  else if b = 0xf4 then .opens ⟨3, 0x80, 0x8f, 4⟩
  else .wrong

/-- Whether a byte may be the next one of a character. -/
def Pending.accepts (p : Pending) (b : UInt8) : Bool :=
  p.low ≤ b && b ≤ p.high

/-- The bits so far with those of one more byte. -/
def Pending.bitsWith (p : Pending) (b : UInt8) : Nat :=
  p.bits * 64 + b.toNat % 64

/-- The character after a byte that is not its last. -/
def Pending.next (p : Pending) (b : UInt8) : Pending :=
  ⟨p.owed - 1, 0x80, 0xbf, p.bitsWith b⟩

/-- The mark that stands for bytes without meaning. -/
def replacement : Char :=
  '\uFFFD'

/-- What a byte between two characters yields and opens. -/
def fresh (b : UInt8) : List Char × Option Pending :=
  match start b with
  | .whole c => ([c], none)
  | .opens p => ([], some p)
  | .wrong => ([replacement], none)

/-- What a byte yields after a character that is not complete. -/
def step : (pending : Option Pending) → UInt8 → List Char × Option Pending
  | none, b => fresh b
  | some p, b =>
      if p.accepts b then
        if p.owed ≤ 1 then ([Char.ofNat (p.bitsWith b)], none)
        else ([], some (p.next b))
      else
        let (chars, pending) := fresh b
        (replacement :: chars, pending)

/-- Reads bytes, one replacement for each faulty span. -/
def decodeLossyFrom : (pending : Option Pending) → List UInt8 → List Char
  | pending, [] => if pending.isSome then [replacement] else []
  | pending, b :: rest =>
      let (chars, pending) := step pending b
      chars ++ decodeLossyFrom pending rest

/-- The text that some bytes spell, one replacement for each faulty span. -/
def decodeLossy (bytes : List UInt8) : List Char :=
  decodeLossyFrom none bytes

/-- The bytes that spell a text. -/
def encode (s : List Char) : List UInt8 :=
  s.flatMap String.utf8EncodeChar

/-- What is wrong with a span of bytes. -/
inductive Defect where
  | invalidStart
  | invalidContinuation
  | cutOff
  deriving DecidableEq, Repr

/-- The first faulty span of some bytes: where it starts, its bytes and what is wrong. -/
structure Fault where
  position : Nat
  bytes : List UInt8
  defect : Defect
  deriving DecidableEq, Repr

/-- Reads bytes; `begun` holds those of the character that is not complete, and `position` counts those
before it. -/
def decodeFrom (position : Nat) (begun : List UInt8) (pending : Option Pending) :
    List UInt8 → Except Fault (List Char)
  | [] =>
      match pending with
      | none => .ok []
      | some _ => .error ⟨position, begun, .cutOff⟩
  | b :: rest =>
      match pending with
      | none =>
          match start b with
          | .whole c => (c :: ·) <$> decodeFrom (position + 1) [] none rest
          | .opens p => decodeFrom position [b] (some p) rest
          | .wrong => .error ⟨position, [b], .invalidStart⟩
      | some p =>
          if p.accepts b then
            if p.owed ≤ 1 then
              (Char.ofNat (p.bitsWith b) :: ·)
                <$> decodeFrom (position + begun.length + 1) [] none rest
            else decodeFrom position (begun ++ [b]) (some (p.next b)) rest
          else .error ⟨position, begun, .invalidContinuation⟩

/-- The text that some bytes spell, or their first faulty span. -/
def decode? (bytes : List UInt8) : Except Fault (List Char) :=
  decodeFrom 0 [] none bytes

def Defect.message : Defect → String
  | .invalidStart => "invalid start byte"
  | .invalidContinuation => "invalid continuation byte"
  | .cutOff => "unexpected end of data"

/-- The fault in words: a longer span is told by its first and last place. -/
def Fault.message (f : Fault) : String :=
  match f.bytes with
  | [b] =>
      "'utf-8' codec can't decode byte 0x" ++ String.ofList (hexPadded 2 b.toNat)
        ++ " in position " ++ toString f.position
        ++ ": " ++ f.defect.message
  | bytes =>
      "'utf-8' codec can't decode bytes in position " ++ toString f.position ++ "-"
        ++ toString (f.position + bytes.length - 1) ++ ": " ++ f.defect.message

end Utf8
end Text
end Killswitch
