import Killswitch.Expression.Grammar
import Killswitch.Expression.Lexer
import Std.Data.HashMap

/-!
# Reading expressions

Rules are matched with the pieces of a text from left to right. What a rule has found at a place is
remembered if it is asked for often. A rule that starts with itself begins with nothing and finds more each
time, as long as it gets further.

**Two passes.** The first pass tells whether a text is an expression. If it is none, a second pass tries the
rules for misuse as well, in order to tell why. A misuse tells less than a piece that is at fault as a whole,
wherever that piece stands.

**Depth.** Rules are matched inside of one another up to a largest depth. Choices and repetitions inside of
a rule count as rules.

**Contents.**
* `Source`: the pieces of a text, and how its quoted texts are read;
* `Reader.find`, `Reader.apply`: what an item and a rule find at a place;
* `Source.read`: the tree of a text.
-/

namespace Killswitch
namespace Expression

/-- The pieces of a text, and how quoted texts in a row are read. -/
structure Source where
  pieces : Pieces
  readTexts : List Token → Except Halt Kind

namespace Reader

/-- What has been found: trees, and the place behind them. -/
abbrev Found := Option (List Tree × Nat)

/-- What is known while reading: how many pieces were asked for, what rules have found, and whether
misuse is looked for. -/
structure Memory where
  asked : Nat
  found : Std.HashMap (Rule × Nat) Found
  seeksMisuse : Bool

abbrev Reading (α : Type) := EStateM Halt Memory α

/-- The largest depth of rules. -/
def deepest : Nat :=
  6000

/-- A step that is made at a depth. -/
def atDepth {α : Type} (depth : Nat) (step : Reading α) : Reading α :=
  if depth < deepest then step else throw .exhausted

def pieceAt (source : Source) (place : Nat) : Reading Token := do
  match source.pieces.tokens[place]? with
  | some t =>
      modify (fun m => { m with asked := max m.asked (place + 1) })
      return t
  | none =>
      match source.pieces.ending with
      | .refused f => throw (.refused f)
      | .stopped f _ => throw (.stopped f)
      | .finished => return ⟨.finish, [], 0, 0⟩

/-- A piece with a tree, if it is what is looked for. -/
def leafIf (source : Source) (place : Nat) (isWanted : Token → Bool) : Reading Found := do
  let t ← pieceAt source place
  if isWanted t then return some ([.leaf t], place + 1) else return none

/-- The words that have a meaning in some places. -/
def softWords : List (List Char) :=
  ["_", "case", "match"].map String.toList

/-- More of the same, as long as there is any. -/
def findMany (one : Nat → Reading Found) : (fuel : Nat) → List Tree → Nat →
    Reading (List Tree × Nat)
  | 0, ts, place => return (ts, place)
  | fuel + 1, ts, place => do
      match ← one place with
      | some (more, next) => findMany one fuel (ts ++ more) next
      | none => return (ts, place)

/-- What has been found, if it is more than trees. -/
def nonempty (start : Nat) (found : List Tree × Nat) : Found :=
  if found.2 = start then none else some found

/-- An attempt to match items: what they found, or whether another one makes sense. -/
inductive Attempt where
  | fits (ts : List Tree) (next : Nat)
  | fails (isFinal : Bool)

section Items

variable (source : Source) (ask : Rule → (depth place : Nat) → Reading Found)

mutual

def find : Item → (depth place : Nat) → Reading Found
  | .fixed s, _, place => do
      let t ← pieceAt source place
      if t.symbol = .fixed s then return some ([], place + 1) else return none
  | .piece symbol, _, place => do
      let found ← leafIf source place (·.symbol = symbol)
      match found with
      | some ([.leaf t], _) =>
          match t.symbol, Number.excess? t.lexeme with
          | .number, some digits => throw (.misused (.tooLong digits))
          | _, _ => return found
      | _ => return found
  | .constant, _, place =>
      leafIf source place (fun t => ["True", "False", "None"].any (t.symbol = .fixed ·))
  | .softWord, _, place =>
      leafIf source place (fun t => t.symbol = .name && softWords.any (t.lexeme.isPrefixOf ·))
  | .rule r, depth, place => ask r depth place
  | .misuse r, depth, place => do
      if (← get).seeksMisuse then ask r depth place else return none
  | .maybe i, depth, place => do
      match ← find i depth place with
      | some found => return some found
      | none => return some ([], place)
  | .many i, depth, place =>
      atDepth depth do
        return some (← findMany (find i (depth + 1)) (source.pieces.tokens.size + 1) [] place)
  | .several i, depth, place =>
      atDepth depth do
        return nonempty place
          (← findMany (find i (depth + 1)) (source.pieces.tokens.size + 1) [] place)
  | .listed i, depth, place =>
      atDepth depth do
        match ← find i (depth + 1) place with
        | none => return none
        | some (ts, next) =>
            atDepth (depth + 1) do
              let another (place : Nat) : Reading Found := do
                if (← pieceAt source place).symbol = .fixed "," then
                  find i (depth + 2) (place + 1)
                else return none
              return some (← findMany another (source.pieces.tokens.size + 1) ts next)
  | .choice alternatives, depth, place => atDepth depth (findFirst alternatives (depth + 1) place)
  | .followedBy i, depth, place => do
      return (← find i depth place).map (fun _ => ([], place))
  | .notFollowedBy i, depth, place => do
      return if (← find i depth place).isSome then none else some ([], place)
  | .commit, _, place => return some ([], place)

/-- What items find one after the other. -/
def findAll : List Item → (isFinal : Bool) → List Tree → (depth place : Nat) → Reading Attempt
  | [], _, ts, _, place => return .fits ts place
  | i :: rest, isFinal, ts, depth, place => do
      match ← find i depth place with
      | some (more, next) =>
          findAll rest (isFinal || i matches .commit) (ts ++ more) depth next
      | none => return .fails isFinal

/-- What the first alternative that fits finds. -/
def findFirst : List (List Item) → (depth place : Nat) → Reading Found
  | [], _, _ => return none
  | items :: rest, depth, place => do
      match ← findAll items false [] depth place with
      | .fits ts next => return some (ts, next)
      | .fails _ => findFirst rest depth place

end

/-- What the branches of a rule find. -/
def findBranch : List Branch → (depth place : Nat) → Reading Found
  | [], _, _ => return none
  | b :: rest, depth, place => do
      match ← findAll source ask b.items false [] depth place with
      | .fits ts next =>
          let brackets := ((source.pieces.tokens[next - 1]?).map Token.depth).getD 0
          match b.make brackets ts with
          | .trees ts => return some (ts, next)
          | .misused f => throw (.misused f)
          | .nothing => return none
      | .fails isFinal => if isFinal then return none else findBranch rest depth place

end Items

/-- Keeps in mind what a rule has found. -/
def remember (r : Rule) (place : Nat) (found : Found) : Reading Unit :=
  modify (fun m => { m with found := m.found.insert (r, place) found })

/-- What a rule that starts with itself finds, after what it has found so far. -/
def grow (once : Reading Found) (r : Rule) (place : Nat) :
    (fuel : Nat) → (reached : Nat) → Found → Reading Found
  | 0, _, found => return found
  | fuel + 1, reached, found => do
      remember r place found
      match ← once with
      | some (ts, next) =>
          if reached < next then grow once r place fuel next (some (ts, next)) else return found
      | none => return found

/-- What quoted texts in a row are read as. -/
def asTexts (source : Source) : Found → Reading Found
  | some ([.node _ parts], next) => do
      let tokens := parts.filterMap (fun | .leaf t => some t | .node _ _ => none)
      match source.readTexts tokens with
      | .ok kind => return some ([.node kind parts], next)
      | .error halt => throw halt
  | found => return found

/-- A step in which misuse is not looked for. -/
def withoutMisuse (step : Reading Found) : Reading Found := do
  let seeks := (← get).seeksMisuse
  modify (fun m => { m with seeksMisuse := false })
  let found ← step
  modify (fun m => { m with seeksMisuse := seeks })
  return found

def apply (source : Source) : (fuel : Nat) → Rule → (depth place : Nat) → Reading Found
  | 0, _, _, _ => throw .exhausted
  | fuel + 1, r, depth, place =>
      atDepth depth do
        let ask := apply source fuel
        if r.isLeftRecursive then
          match (← get).found[(r, place)]? with
          | some found => return found
          | none =>
              let once := atDepth (depth + 1) (findBranch source ask r.alternatives (depth + 2) place)
              grow once r place (source.pieces.tokens.size + 1) place none
        else if r.isRemembered then
          match (← get).found[(r, place)]? with
          | some found => return found
          | none =>
              let found ← findBranch source ask r.alternatives (depth + 1) place
              let found ← if r = .texts then asTexts source found else pure found
              remember r place found
              return found
        else if r = .plainExpression then
          withoutMisuse (findBranch source ask r.alternatives (depth + 1) place)
        else findBranch source ask r.alternatives (depth + 1) place

end Reader

namespace Source

open Reader

/-- The last piece that has been asked for. -/
def lastAsked (source : Source) (asked : Nat) : Token :=
  (source.pieces.tokens[asked - 1]?).getD ⟨.finish, [], 0, 0⟩

/-- How reading ends with one fault: pieces that were not asked for may be at fault as a whole, and a
bracket that is open on an earlier line counts for more. -/
def blame (source : Source) (asked : Nat) (found : Halt) : Halt :=
  match source.pieces.ending with
  | .finished => found
  | .refused f => .refused f
  | .stopped _ none => found
  | .stopped _ (some (opening, line)) =>
      if line < (source.lastAsked asked).line then .stopped (.unclosed opening) else found

/-- How reading ends before its time. A piece at fault, or the end of the text, lets no further fault be
looked for. -/
def blameFound (source : Source) (asked : Nat) (found : Halt) : Halt :=
  match found with
  | .refused _ => found
  | .stopped _ => found
  | .exhausted => found
  | _ =>
      if source.pieces.showsEnd && asked = source.pieces.tokens.size then found
      else source.blame asked found

/-- How reading ends for a text without a known misuse. -/
def blameOrder (source : Source) (asked : Nat) (last : Token) : Halt :=
  if last.symbol = .indent then .misused .indented
  else source.blame asked (.misused (.misuse .order))

/-- The tree that a rule finds at the start of a text. -/
def read (source : Source) (r : Rule) : Except Halt Tree :=
  let pass (m : Memory) := (apply source (deepest + 1) r 0 0).run m
  match pass ⟨0, ∅, false⟩ with
  | .ok (some (t :: _, _)) _ => .ok t
  | .error halt m => .error (source.blameFound m.asked halt)
  | .ok _ first =>
      match pass { first with found := ∅, seeksMisuse := true } with
      | .error halt m => .error (source.blameFound m.asked halt)
      | .ok _ m => .error (source.blameOrder m.asked (source.lastAsked first.asked))

end Source

end Expression
end Killswitch
