import Killswitch.Expression.Fault
import Killswitch.Expression.Tree

/-!
# Rules of grammar

A rule is an ordered choice: its first alternative that fits is taken, and the others are not looked at.
What an alternative makes of the trees of its parts may be trees again, a fault, or nothing, and then the
rule as a whole does not fit.

Some rules describe how pieces are misused. They are tried only when it is known that a text is no
expression, in order to tell why.

**Contents.**
* `Rule`: the names of the rules;
* `Item`, `Branch`: what a rule is made of;
* `Outcome`: what becomes of an alternative that fits.
-/

namespace Killswitch
namespace Expression

/-- The names of the rules. -/
inductive Rule where
  | whole
  | field
  | expressions
  | expression
  | plainExpression
  | yieldExpression
  | starredExpressions
  | starredOrExpression
  | memberList
  | member
  | naming
  | namingOrExpression
  | disjunction
  | conjunction
  | inversion
  | comparison
  | comparisonEnd
  | bitOr
  | bitXor
  | bitAnd
  | shift
  | sum
  | term
  | factor
  | power
  | awaited
  | primary
  | atom
  | texts
  | tuple
  | parenthesized
  | set
  | dict
  | pairs
  | pairOrUnpacking
  | pair
  | clauses
  | clause
  | generator
  | setComprehension
  | dictComprehension
  | function
  | parameters
  | parameterList
  | positionalOnly
  | positionalOnlyWithDefaults
  | restParameters
  | restKeywords
  | plainParameter
  | defaultParameter
  | anyParameter
  | parameter
  | defaultValue
  | arguments
  | argumentList
  | keywordArguments
  | starredArgument
  | keywordOrStarred
  | keywordOrUnpacked
  | targets
  | target
  | plainTarget
  | targetAtom
  | targetTuple
  | targetPrimary
  | targetGoesOn
  | expressionMisuse
  | statementMisuse
  | namingMisuse
  | groupMisuse
  | comprehensionMisuse
  | dictComprehensionMisuse
  | pairsMisuse
  | pairMisuse
  | argumentsMisuse
  | keywordMisuse
  | targetMisuse
  | parametersMisuse
  | defaultsMisuse
  | restMisuse
  | restKeywordsMisuse
  | defaultMisuse
  deriving DecidableEq, Hashable, Repr

/-- Whether what a rule finds is remembered. -/
def Rule.isRemembered : Rule → Bool
  | .expression => true
  | .starredOrExpression => true
  | .disjunction => true
  | .conjunction => true
  | .inversion => true
  | .factor => true
  | .awaited => true
  | .texts => true
  | .arguments => true
  | .target => true
  | .plainTarget => true
  | .namingMisuse => true
  | _ => false

/-- Whether a rule starts with itself and grows from the left. -/
def Rule.isLeftRecursive : Rule → Bool
  | .bitOr => true
  | .bitXor => true
  | .bitAnd => true
  | .shift => true
  | .sum => true
  | .term => true
  | .primary => true
  | .targetPrimary => true
  | _ => false

/-- A part of an alternative. -/
inductive Item where
  /-- a piece with a meaning of its own; it has no tree -/
  | fixed (s : String)
  /-- a piece of a kind, which is its own tree -/
  | piece (symbol : Symbol)
  /-- one of the constants with a name -/
  | constant
  /-- a name that is the start of a word with a meaning in some places -/
  | softWord
  | rule (r : Rule)
  /-- a rule that is tried only to tell why a text is no expression -/
  | misuse (r : Rule)
  | maybe (i : Item)
  | many (i : Item)
  /-- an item, at least once -/
  | several (i : Item)
  /-- an item, at least once, with commas between -/
  | listed (i : Item)
  | choice (alternatives : List (List Item))
  /-- an item that must follow -/
  | followedBy (i : Item)
  /-- an item that must not follow -/
  | notFollowedBy (i : Item)
  /-- from here on no other alternative can fit -/
  | commit

instance : Coe String Item :=
  ⟨.fixed⟩

instance : Coe Rule Item :=
  ⟨.rule⟩

instance : Coe Symbol Item :=
  ⟨.piece⟩

/-- What becomes of an alternative that fits. -/
inductive Outcome where
  | trees (ts : List Tree)
  | misused (f : Fault)
  | nothing

/-- An alternative of a rule, and what it makes of the trees of its parts and of the open brackets. -/
structure Branch where
  items : List Item
  make : (depth : Nat) → List Tree → Outcome

namespace Branch

/-- An alternative that passes its trees on. -/
def through (items : List Item) : Branch :=
  ⟨items, fun _ ts => .trees ts⟩

/-- An alternative that makes a node of its trees. -/
def node (k : Kind) (items : List Item) : Branch :=
  ⟨items, fun _ ts => .trees [.node k ts]⟩

/-- An alternative that is a misuse. -/
def wrong (m : Misuse) (items : List Item) : Branch :=
  ⟨items, fun _ _ => .misused (.misuse m)⟩

/-- An alternative that may be a fault, depending on its trees. -/
def faulty (items : List Item) (fault? : (depth : Nat) → List Tree → Option Fault) : Branch :=
  ⟨items, fun depth ts => ((fault? depth ts).map .misused).getD .nothing⟩

end Branch

end Expression
end Killswitch
