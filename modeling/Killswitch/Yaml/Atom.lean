import Killswitch.Calendar.Date
import Killswitch.Decimal.Notation
import Killswitch.Yaml.Fault

/-!
# Atoms

The values of documents that have no parts. They can be keys of mappings and members of sets.

**Contents.**
* `Atom`: the values;
* `Atom.isEmpty`: whether a value counts as absent;
* `Atom.sameKey`: whether two values are one key;
* `Atom.shown` and `Atom.plain`: a value in a message, and as a text of its own.
-/

namespace Killswitch
namespace Yaml

/-- A value without parts. -/
inductive Atom where
  | null
  | truth (b : Bool)
  | integer (n : Int)
  | real (x : Float)
  | undefined
  | text (s : List Letter)
  | bytes (b : List UInt8)
  | date (d : Calendar.Date)
  | moment (m : Calendar.Moment)

namespace Atom

def isText (s : String) : Atom → Bool
  | .text t => t == Letter.ofChars s.toList
  | _ => false

/-- Whether a value counts as absent: nothing, false, zero, and whatever is empty. -/
def isEmpty : Atom → Bool
  | .null => true
  | .truth b => !b
  | .integer n => n == 0
  | .real x => x == 0.0
  | .text s => s.isEmpty
  | .bytes b => b.isEmpty
  | _ => false

/-! ## Keys -/

/-- A finite number as an integer times a power of two. -/
def binary? : Atom → Option (Int × Int)
  | .truth b => some (if b then 1 else 0, 0)
  | .integer n => some (n, 0)
  | .real x =>
      if x.isNaN || x.isInf then none
      else
        let b := Decimal.Binary.ofBits x.toBits.toNat
        some (if b.negative then -(b.mantissa : Int) else b.mantissa, b.exponent)
  | _ => none

/-- Whether two finite numbers are equal. -/
def sameNumber (a b : Int × Int) : Bool :=
  let low := min a.2 b.2
  a.1 * Nat.pow 2 (a.2 - low).toNat == b.1 * Nat.pow 2 (b.2 - low).toNat

/-- Whether two values are one key. Numbers are compared by value, and truth values count as one and
zero; a number without value is a key only where it is the one with a name. -/
def sameKey (v w : Atom) : Bool :=
  match binary? v, binary? w with
  | some a, some b => sameNumber a b
  | some _, none => false
  | none, some _ => false
  | none, none =>
      match v, w with
      | .null, .null => true
      | .real x, .real y => x == y
      | .undefined, .undefined => true
      | .text s, .text t => s == t
      | .bytes b, .bytes c => b == c
      | .date d, .date e => d == e
      | .moment m, .moment n => m.same n
      | _, _ => false

/-! ## Text -/

/-- A value as messages show it; an integer may be too long for that. -/
def shown : Atom → Except Fault String
  | .null => .ok "None"
  | .truth b => .ok (if b then "True" else "False")
  | .integer n =>
      if n.natAbs < Nat.pow 10 Decimal.longestInteger then .ok (toString n) else .error .longIntegerText
  | .real x => .ok (Decimal.toText x)
  | .undefined => .ok (Decimal.toText (0.0 / 0.0))
  | .text s => .ok (Letter.quote s)
  | .bytes b => .ok (Text.quoteBytes b)
  | .date d => .ok d.shown
  | .moment m => .ok m.shown

/-- A value as a text of its own. -/
def plain : Atom → Except Fault String
  | .text s => .ok (Letter.toText s)
  | .date d => .ok d.toString
  | .moment m => .ok m.toString
  | a => a.shown

end Atom
end Yaml
end Killswitch
