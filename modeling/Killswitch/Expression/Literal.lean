import Killswitch.Expression.Parse

/-!
# Literals

A literal is an expression whose value can be told from itself: numbers, perhaps with a sign, and the sum
of a real and an imaginary one; texts, constants, and the ellipsis; and rows, sets and tables of literals.
An empty set is written as the call of its name.

**Hashing.** The members of a set and the keys of a table must be values that never change, so no set and
no table can be among them, not even as a part of a row.

**Contents.**
* `Collection`: the values that change;
* `Unfit`: why an expression is no literal, and `Refusal`: why a text is none;
* `Tree.collection?`: what the value of a literal has in it that changes;
* `checkLiteral`: whether a text is a literal.
-/

namespace Killswitch
namespace Expression

/-! ## Faults -/

/-- A value that changes. -/
inductive Collection where
  | set
  | dict
  deriving DecidableEq, Repr

def Collection.name : Collection → String
  | .set => "set"
  | .dict => "dict"

/-- A reason why an expression is no literal. -/
inductive Unfit where
  /-- a part is no literal -/
  | malformed
  /-- entries of a table that are taken from another one -/
  | unpacked
  /-- a key or a member that changes -/
  | unhashable (c : Collection)
  /-- an integer that cannot be added to an imaginary number -/
  | tooLarge
  /-- too many nodes inside of one another -/
  | tooDeep
  deriving DecidableEq, Repr

def Unfit.message : Unfit → String
  | .malformed => "malformed node or string"
  | .unpacked => "malformed node or string: None"
  | .unhashable c => "unhashable type: '" ++ c.name ++ "'"
  | .tooLarge => "int too large to convert to float"
  | .tooDeep => "maximum recursion depth exceeded during ast construction"

/-- A reason why a text is no literal: it is no expression, there is no room to read it, or its
expression is unfit. -/
inductive Refusal where
  | misread (f : Fault)
  | exhausted
  | unfit (u : Unfit)
  deriving DecidableEq, Repr

def Halt.refusal : Halt → Refusal
  | .refused f => .misread f
  | .stopped f => .misread f
  | .misused f => .misread f
  | .fieldAtFault f => .misread f
  | .exhausted => .exhausted

/-! ## Numbers -/

namespace Tree

/-- The digits of a tree that is a number. -/
def number? : Tree → Option (List Char)
  | .leaf t => if t.symbol = .number then some t.lexeme else none
  | .node _ _ => none

/-- The digits of a number that may have a sign. -/
def signedNumber? : Tree → Option (List Char)
  | .node (.unary operator) [t] =>
      if operator = "+" ∨ operator = "-" then t.number? else none
  | t => t.number?

end Tree

/-- The least integer too large for a number with a fraction. -/
def leastTooLarge : Nat :=
  Nat.pow 2 1024 - Nat.pow 2 970

/-- Adds an imaginary number to a real one. -/
def checkSum (left right : Tree) : Except Unfit Unit :=
  match left.signedNumber?, right.number? with
  | some real, some imaginary =>
      if Number.isImaginary real || !Number.isImaginary imaginary then .error .malformed
      else if (Number.integer? real).any (leastTooLarge ≤ ·) then .error .tooLarge
      else .ok ()
  | _, _ => .error .malformed

/-! ## Values -/

/-- Whether a value can be a key or a member, by the collection in it. -/
def checkHash : Option Collection → Except Unfit Unit
  | some c => .error (.unhashable c)
  | none => .ok ()

namespace Tree

mutual

/-- The first collection in a literal, apart from members and keys. -/
def collection? : Tree → Except Unfit (Option Collection)
  | .leaf t => if t.symbol = .name then .error .malformed else .ok none
  | .node .text _ => .ok none
  | .node .ellipsis _ => .ok none
  | .node .tuple parts => rowCollection? parts
  | .node .set parts => do
      checkMembers parts
      return some .set
  | .node .dict parts => do
      checkEntries parts
      return some .dict
  | .node .call [f] => if f.name? = some "set" then .ok (some .set) else .error .malformed
  | .node (.binary operator) [left, right] => do
      if operator = "+" ∨ operator = "-" then checkSum left right else throw .malformed
      return none
  | .node (.unary operator) [t] =>
      if ((Tree.node (.unary operator) [t]).signedNumber?).isSome then .ok none
      else .error .malformed
  | .node _ _ => .error .malformed

/-- The first collection in a row. -/
def rowCollection? : List Tree → Except Unfit (Option Collection)
  | [] => .ok none
  | t :: rest => do
      let first ← collection? t
      let others ← rowCollection? rest
      return first.or others

/-- Whether literals can be members of a set. -/
def checkMembers : List Tree → Except Unfit Unit
  | [] => .ok ()
  | t :: rest => do
      checkHash (← collection? t)
      checkMembers rest

/-- Whether pairs of literals can be entries of a table. -/
def checkEntries : List Tree → Except Unfit Unit
  | [] => .ok ()
  | t :: rest => do
      match t with
      | .node .pair [key, value] =>
          let found ← collection? key
          let _ ← collection? value
          checkHash found
      | .node .unpacking _ => throw .unpacked
      | _ => throw .malformed
      checkEntries rest

end

/-! ## Depth -/

mutual

/-- How deep nodes are inside of one another. -/
def depth : Tree → Nat
  | .leaf _ => 1
  | .node _ parts => depthAmong parts + 1

def depthAmong : List Tree → Nat
  | [] => 0
  | t :: rest => max t.depth (depthAmong rest)

end

/-- The largest depth. -/
def mostDepth : Nat :=
  2835

/-- Whether an expression is a literal. -/
def checkLiteral (t : Tree) : Except Unfit Unit := do
  if mostDepth < t.depth then throw .tooDeep
  let _ ← t.collection?
  return ()

end Tree

/-! ## Texts -/

/-- Whether a text is a literal, apart from blanks in front of it. -/
def checkLiteral (s : List Char) : Except Refusal Unit := do
  let s := s.dropWhile (fun c => c = ' ' || c = '\t')
  let tree ← (parse s).mapError Halt.refusal
  tree.checkLiteral.mapError .unfit

end Expression
end Killswitch
