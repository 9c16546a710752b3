import Killswitch.Yaml.Atom

/-!
# The members of a set

The order in which the members of a set are shown. A set of numbers is kept in a table with more slots
than members: each number looks for a slot where its code points, and goes on from there as long as the
slots are taken. Every other set keeps the order in which its members were written.

**Codes.** Numbers that are equal have one code: the residue of the number modulo a prime of sixty-one
bits, with the number's sign, as a word of sixty-four bits.

**Contents.**
* `code?`: the code of a number;
* `slotOf`: the slot that a code finds;
* `ordered`: the members in the order of their slots.
-/

namespace Killswitch
namespace Yaml
namespace Members

/-! ## Codes -/

def modulus : Nat :=
  Nat.pow 2 61 - 1

def infinityCode : Nat :=
  314159

/-- The word for a residue with a sign; minus two stands for minus one. -/
def word (negative : Bool) (residue : Nat) : Nat :=
  if negative && residue != 0 then Nat.pow 2 64 - max residue 2 else residue

/-- The code of a number, if it has a value. -/
def code? (a : Atom) : Option Nat :=
  match a.binary? with
  | some (m, e) => some (word (m < 0) (m.natAbs * Nat.pow 2 (e % 61).toNat % modulus))
  | none =>
      match a with
      | .real x => if x.isInf then some (word (x < 0) infinityCode) else none
      | _ => none

/-! ## Slots -/

/-- Eight slots, or a power of two more than twice the members. -/
def slotCount (members : Nat) : Nat :=
  if members < 5 then 8 else Nat.pow 2 (Nat.log2 (2 * members) + 1)

/-- How many slots in a row are tried. -/
def reach : Nat :=
  9

/-- The first free slot: some in a row are tried before the search goes on elsewhere. -/
def search (slots : Nat) (taken : List Nat) : (fuel slot code : Nat) → Nat
  | 0, slot, _ => slot
  | fuel + 1, slot, code =>
      let tried := List.range' slot (if slot + reach < slots then reach + 1 else 1)
      match tried.find? (fun slot => !taken.contains slot) with
      | some free => free
      | none =>
          let code := code / 32
          search slots taken fuel ((5 * slot + 1 + code) % slots) code

/-- The slot that a code finds; thirteen steps use it up. -/
def slotOf (slots : Nat) (taken : List Nat) (code : Nat) : Nat :=
  search slots taken (slots + 13) (code % slots) code

/-- Members with their slots, each found after those before it. -/
def settle (slots : Nat) (settled : List (Nat × Atom)) : List (Nat × Atom) → List (Nat × Atom)
  | [] => settled
  | (code, a) :: rest =>
      settle slots (settled ++ [(slotOf slots (settled.map (·.1)) code, a)]) rest

/-! ## The order -/

/-- The members of a set in the order in which they are shown. -/
def ordered (members : List Atom) : List Atom :=
  match members.mapM (fun a => (code? a).map (·, a)) with
  | some coded =>
      ((settle (slotCount members.length) [] coded).mergeSort (fun a b => a.1 ≤ b.1)).map (·.2)
  | none => members

end Members
end Yaml
end Killswitch
