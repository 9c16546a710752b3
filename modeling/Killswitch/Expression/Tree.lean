import Killswitch.Expression.Token

/-!
# Trees of expressions

What an expression is made of. A leaf is a piece: a name, a number, or a constant with a name. A node
has a kind and parts; what the parts are follows from the kind.

**Contents.**
* `Kind`, `Tree`: the trees;
* `Tree.described`: what a tree is, in words;
* `Tree.unfitTarget?`: the part of a tree that cannot take a value.
-/

namespace Killswitch
namespace Expression

/-- The kinds of nodes. -/
inductive Kind where
  /-- a name of something: the thing, and the name -/
  | access
  /-- a function and what it is given -/
  | call
  /-- what a function is given -/
  | arguments
  /-- a name and the value that is given for it -/
  | keyword
  /-- a value that stands for its members -/
  | starred
  /-- a value that stands for its entries -/
  | unpacking
  | tuple
  | set
  /-- pairs and unpacked values -/
  | dict
  /-- a key and a value -/
  | pair
  | generator
  | setComprehension
  | dictComprehension
  /-- a part of a comprehension: targets, values, and conditions -/
  | clause
  | function
  /-- a value, a condition, and another value -/
  | conditional
  | boolean
  /-- a value and what it is compared with -/
  | comparison
  /-- what a value is compared with; for membership or not -/
  | compared (isMembership : Bool)
  | binary (operator : String)
  | unary (operator : String)
  /-- a name and the value that it is given -/
  | naming
  | yielded
  | awaited
  | ellipsis
  /-- a text, or bytes -/
  | text
  /-- a formatted text -/
  | formatted
  deriving DecidableEq, Repr

inductive Tree where
  | leaf (t : Token)
  | node (k : Kind) (parts : List Tree)

/-- What a node is, in words. -/
def Kind.described : Kind → String
  | .access => "attribute"
  | .call => "function call"
  | .arguments => "function call"
  | .keyword => "keyword"
  | .starred => "starred"
  | .unpacking => "starred"
  | .tuple => "tuple"
  | .set => "set display"
  | .dict => "dict literal"
  | .pair => "pair"
  | .generator => "generator expression"
  | .setComprehension => "set comprehension"
  | .dictComprehension => "dict comprehension"
  | .clause => "comprehension"
  | .function => "lambda"
  | .conditional => "conditional expression"
  | .boolean => "expression"
  | .comparison => "comparison"
  | .compared _ => "comparison"
  | .binary _ => "expression"
  | .unary _ => "expression"
  | .naming => "named expression"
  | .yielded => "yield expression"
  | .awaited => "await expression"
  | .ellipsis => "ellipsis"
  | .text => "literal"
  | .formatted => "f-string expression"

namespace Tree

def described : Tree → String
  | .leaf t =>
      match t.symbol with
      | .name => "name"
      | .fixed s => s
      | _ => "literal"
  | .node k _ => k.described

/-- The name that a tree is. -/
def name? : Tree → Option String
  | .leaf t => if t.symbol = .name then some (String.ofList t.lexeme) else none
  | .node _ _ => none

/-- The names that once stood in front of a value without parentheses. -/
def formerStatements : List String :=
  ["print", "exec"]

/-- The name that a tree is, if it is one of them. -/
def formerStatement? (t : Tree) : Option String :=
  t.name?.filter formerStatements.contains

mutual

/-- The first part of a tree that cannot take a value in a comprehension. -/
def unfitTarget? : Tree → Option Tree
  | .leaf t => if t.symbol = .name then none else some (.leaf t)
  | .node .tuple parts => unfitAmong? parts
  | .node .starred parts => unfitAmong? parts
  | .node .comparison (left :: .node (.compared isMembership) _ :: _) =>
      if isMembership then unfitTarget? left else none
  | .node .access _ => none
  | t => some t

/-- The first such part of some trees. -/
def unfitAmong? : List Tree → Option Tree
  | [] => none
  | t :: rest => (unfitTarget? t).or (unfitAmong? rest)

end

end Tree

end Expression
end Killswitch
